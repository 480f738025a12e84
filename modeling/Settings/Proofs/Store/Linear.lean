import Mathlib.Data.List.Perm.Basic
import Settings.Proofs.Store.Clients
import Settings.Proofs.Store.Resolution

/-!
# Calls at once are calls in order

Whatever the order of the steps of its clients, a store comes to the same pairs, and the clients
get the same replies, as if the calls had been made one after the other, in the order of their
critical sections.  The warnings are the same too, but not in the same order: a check may come
long before the critical section of its call, or long after it.

What carries the proof is that the critical sections are linked, each of them finding the pairs
that the one before has left, and that for each client the keys that it has checked are those
of its calls, up to the one check that it is ahead or behind (`Shared.Inv`).

## Main definitions

* `Store.replies` — the replies to requests one after the other.
* `Store.Linked` — critical sections one after the other.
* `Store.Program.Makes` — the calls that a program makes when it gets certain replies.
* `Store.Shared.Inv` — the invariant.

## Main results

* `Store.Shared.Inv.step` — the invariant is kept by every step.
* `Store.Linked.run` — linked critical sections are a run of the store.
* `Store.Shared.linearizable` — **calls at once are calls in the order of their critical
  sections.**
-/

namespace Settings

open History

namespace Store

/-! ### What a call may change -/

/-- The key that a call may change. -/
def Call.target? : Call → Option String
  | .set (.name key) _ => some key
  | .set (.entry e) _ => some e.key
  | .setIfMissing key _ => some key
  | .remove key => some key
  | _ => none

/-- The change that a call makes whatever it finds. -/
def Call.update? : Call → Option Mutation
  | .set (.name key) v => v.text?.map (.write key)
  | .set (.entry e) v => (typedMutations e v).head?
  | .remove key => some (.remove key)
  | _ => none

section Enter

variable {m : OrderedMap StoredKey String} {o : Call} {key : String}

theorem find?_insert_text_of_ne {key' : String} (h : key' ≠ key) (value : String) :
    (m.insert (.text key') value).find? (.text key) = m.find? (.text key) := by
  rw [OrderedMap.find?_insert, if_neg fun h' => h (StoredKey.text.inj h').symm]

theorem find?_erase_text_of_ne {key' : String} (h : key' ≠ key) :
    (m.erase (.text key')).find? (.text key) = m.find? (.text key) := by
  rw [OrderedMap.find?_erase, if_neg fun h' => h (StoredKey.text.inj h').symm]

/-- A call leaves all keys but its own as they are. -/
theorem find?_enter_of_target_ne (h : o.target? ≠ some key) :
    (o.enter m).config.find? (.text key) = m.find? (.text key) := by
  cases o with
  | set k v =>
    cases k with
    | name k =>
      have hne : k ≠ key := fun h' => h (congrArg some h')
      cases hv : v.text? with
      | none => simp only [Call.enter, hv]
      | some value =>
        simp only [Call.enter, hv]
        exact find?_insert_text_of_ne hne value
    | entry e =>
      have hne : e.key ≠ key := fun h' => h (congrArg some h')
      change (Call.enterEntry m e v).config.find? _ = _
      unfold Call.enterEntry
      split
      · rfl
      · split
        · exact find?_erase_text_of_ne hne
        · split
          · next text _ => exact find?_insert_text_of_ne hne text
          · rfl
    | other k hk => rfl
  | setIfMissing k v =>
    have hne : k ≠ key := fun h' => h (congrArg some h')
    cases hv : v.text? with
    | none => simp only [Call.enter, hv]
    | some value =>
      simp only [Call.enter, hv]
      split
      · rfl
      · exact find?_insert_text_of_ne hne value
  | remove k =>
    have hne : k ≠ key := fun h' => h (congrArg some h')
    exact find?_erase_text_of_ne hne
  | iterate => rfl

/-- A call makes its change. -/
theorem find?_enter_of_update? {change : Mutation} (h : o.update? = some change) :
    (o.enter m).config.find? (.text change.key) = change.value? := by
  have hinsert : ∀ (key : String) (value : String),
      (m.insert (.text key) value).find? (.text key) = some value := by
    intro key value
    rw [OrderedMap.find?_insert, if_pos rfl]
  have herase : ∀ key : String, (m.erase (.text key)).find? (.text key) = none := by
    intro key
    rw [OrderedMap.find?_erase, if_pos rfl]
  cases o with
  | set k v =>
    cases k with
    | name k =>
      obtain ⟨value, hv, rfl⟩ := Option.map_eq_some_iff.1 h
      simp only [Call.enter, hv]
      exact hinsert k value
    | entry e =>
      by_cases hnull : v = .null
      · subst hnull
        obtain rfl : Mutation.remove e.key = change := Option.some.inj h
        exact herase e.key
      · change (typedMutations e v).head? = some change at h
        rw [typedMutations_of_ne_null hnull] at h
        split at h
        · next ht =>
          rw [Option.head?_toList, Option.map_eq_some_iff] at h
          obtain ⟨text, htext, rfl⟩ := h
          change (Call.enterEntry m e v).config.find? _ = _
          rw [enterEntry_of_type_eq m hnull ht, Value.stored_eq_ok_iff.2 htext]
          exact hinsert e.key text
        · cases h
    | other k hk => cases h
  | setIfMissing k v => cases h
  | remove k =>
    obtain rfl : Mutation.remove k = change := Option.some.inj h
    exact herase k
  | iterate => cases h

end Enter

/-! ### One after the other -/

/-- The replies to requests one after the other. -/
def replies (s : Store) : List Request → List Reply
  | [] => []
  | r :: rs => (s.perform r).result :: (s.perform r).store.replies rs

/-- Each critical section finds the pairs that the one before has left. -/
def Linked {ι : Type} (m : OrderedMap StoredKey String) :
    List (Visit ι) → OrderedMap StoredKey String → Prop
  | [], m' => m' = m
  | v :: vs, m' => v.found = m ∧ Linked v.left vs m'

section Linked

variable {ι : Type} {s : Store} {t : Tables} {m m' : OrderedMap StoredKey String}
  {vs ws : List (Visit ι)} {v : Visit ι} {key : String}

theorem linked_append_cons :
    Linked m (vs ++ v :: ws) m' ↔ Linked m vs v.found ∧ Linked v.left ws m' := by
  induction vs generalizing m with
  | nil => exact Iff.rfl
  | cons w vs ih =>
    change w.found = m ∧ Linked w.left (vs ++ v :: ws) m' ↔
      (w.found = m ∧ Linked w.left vs v.found) ∧ _
    rw [ih, and_assoc]

theorem Linked.concat (h : Linked m vs v.found) : Linked m (vs ++ [v]) v.left :=
  linked_append_cons.2 ⟨h, rfl⟩

theorem config_perform_request (s : Store) (o : Call) :
    (s.perform o.request).store.config = (o.enter s.config).config := by
  rw [perform_request]
  simp only [threefold, config_noteIf, config_withPairs]

theorem result_perform_request (s : Store) (o : Call) :
    (s.perform o.request).result = (o.enter s.config).reply := by
  rw [perform_request]
  simp only [threefold, config_noteIf]

/-- A call warns about the keys that it checks. -/
theorem Follows.perform_request (hs : s.Follows t) (o : Call) :
    (s.perform o.request).store.Follows t ∧
      warningTexts (s.perform o.request).events
        = (o.precheck.toList ++ (o.enter s.config).settles.toList).filterMap t.warningText? := by
  obtain ⟨hbefore, hwarnBefore⟩ := hs.noteIf o.precheck
  have hinside := hbefore.withPairs (o.enter s.config).config
  obtain ⟨hafter, hwarnAfter⟩ := hinside.noteIf (o.enter s.config).settles
  rw [Store.perform_request]
  simp only [threefold, config_noteIf]
  exact ⟨hafter, by rw [warningTexts_append, hwarnBefore, hwarnAfter, List.filterMap_append]⟩

/-- **Linked critical sections are a run of the store**: it leaves the same pairs, gives the same
replies, and warns about the keys that the calls check. -/
theorem Linked.run (hs : s.Follows t) (h : Linked s.config vs m) :
    (s.run (vs.map fun v => v.call.request)).1.config = m ∧
      s.replies (vs.map fun v => v.call.request) = vs.map Visit.reply ∧
      warningTexts (s.run (vs.map fun v => v.call.request)).2
        = (vs.flatMap Visit.checks).filterMap t.warningText? := by
  -- the run and the sections go on from the pairs that the first call leaves
  induction vs generalizing s with
  | nil => exact ⟨h.symm, rfl, rfl⟩
  | cons v vs ih =>
    obtain ⟨hfound, hrest⟩ := h
    obtain ⟨hfollows, hwarn⟩ := hs.perform_request v.call
    have hleft : v.left = (s.perform v.call.request).store.config := by
      rw [config_perform_request, ← hfound]
      rfl
    have hreply : (s.perform v.call.request).result = v.reply := by
      rw [result_perform_request, ← hfound]
      rfl
    have hchecks : v.call.precheck.toList ++ (v.call.enter s.config).settles.toList
        = v.checks := by
      rw [← hfound]
      rfl
    rw [hleft] at hrest
    obtain ⟨hconfig, hreplies, hwarnings⟩ := ih hfollows hrest
    refine ⟨hconfig, ?_, ?_⟩
    · rw [List.map_cons, replies, hreplies, hreply, List.map_cons]
    · rw [hchecks] at hwarn
      rw [List.map_cons, List.flatMap_cons, List.filterMap_append, ← hwarn, ← hwarnings]
      exact warningTexts_append _ _

/-- Keys that no call is about are left as they are. -/
theorem Linked.find?_of_target_ne (h : Linked m vs m')
    (hne : ∀ v ∈ vs, v.call.target? ≠ some key) : m'.find? (.text key) = m.find? (.text key) := by
  induction vs generalizing m with
  | nil => rw [show m' = m from h]
  | cons v vs ih =>
    obtain ⟨rfl, hrest⟩ := h
    rw [List.forall_mem_cons] at hne
    rw [ih hrest hne.2]
    exact find?_enter_of_target_ne hne.1

/-- **An update is not lost** as long as no later call is about its key. -/
theorem Linked.find?_of_update? {change : Mutation} (h : Linked m (vs ++ v :: ws) m')
    (hv : v.call.update? = some change) (hlast : ∀ w ∈ ws, w.call.target? ≠ some change.key) :
    m'.find? (.text change.key) = change.value? := by
  obtain ⟨-, hrest⟩ := linked_append_cons.1 h
  rw [hrest.find?_of_target_ne hlast]
  exact find?_enter_of_update? hv

end Linked

/-! ### Writes under one missing key -/

section Missing

variable {ι : Type} {m m' : OrderedMap StoredKey String} {vs : List (Visit ι)} {v : Visit ι}
  {key value : String}

theorem Call.target?_of_precheck {o : Call} (h : o.precheck = some key) :
    o.target? = some key := by
  cases o with
  | set k w =>
    cases k with
    | name k =>
      obtain ⟨_, -, rfl⟩ := Option.map_eq_some_iff.1 h
      rfl
    | entry e =>
      change Call.precheckEntry e w = some key at h
      unfold Call.precheckEntry at h
      split at h
      · exact nomatch h
      · split at h
        · exact nomatch h
        · exact h
    | other k hk => exact nomatch h
  | setIfMissing k w => exact nomatch h
  | remove k => exact nomatch h
  | iterate => exact nomatch h

theorem settles_enterEntry (e : Entry) (w : Value) : (Call.enterEntry m e w).settles = none := by
  unfold Call.enterEntry
  split
  · rfl
  · split
    · rfl
    · split <;> rfl

theorem Call.target?_of_settles {o : Call} (h : (o.enter m).settles = some key) :
    o.target? = some key := by
  cases o with
  | set k w =>
    cases k with
    | name k =>
      cases hw : w.text? <;> simp [Call.enter, hw] at h
    | entry e => cases (settles_enterEntry e w).symm.trans h
    | other k hk => cases h
  | setIfMissing k w =>
    cases hw : w.text? with
    | none => simp [Call.enter, hw] at h
    | some value =>
      simp only [Call.enter, hw] at h
      split at h
      · cases h
      · exact h
  | remove k => cases h
  | iterate => cases h

/-- A call checks no key but the one it may change. -/
theorem Visit.target?_of_mem_checks (h : key ∈ v.checks) : v.call.target? = some key := by
  rw [checks, List.mem_append, Option.mem_toList, Option.mem_toList] at h
  exact h.elim Call.target?_of_precheck Call.target?_of_settles

theorem visit_of_missing (hv : v.call = .setIfMissing key (.text value))
    (hfound : v.found.find? (.text key) = none) :
    v.left = v.found.insert (.text key) value ∧ v.checks = [key] := by
  have hcontains : v.found.contains (.text key) = false := by
    rw [OrderedMap.contains, hfound]
    rfl
  have hpassage : v.passage = ⟨.ok .done, v.found.insert (.text key) value, some key⟩ := by
    rw [Visit.passage, hv]
    simp only [Call.enter, Value.text?_text, hcontains, Bool.false_eq_true, if_false]
  rw [Visit.left, Visit.checks, hpassage, hv]
  exact ⟨rfl, rfl⟩

theorem visit_of_present {w : String} (hv : v.call = .setIfMissing key (.text w))
    (hfound : v.found.find? (.text key) = some value) :
    v.left = v.found ∧ v.checks = [] := by
  have hcontains : v.found.contains (.text key) = true := by
    rw [OrderedMap.contains, hfound]
    rfl
  have hpassage : v.passage = ⟨.ok .done, v.found, none⟩ := by
    rw [Visit.passage, hv]
    simp only [Call.enter, Value.text?_text, hcontains, if_true]
  rw [Visit.left, Visit.checks, hpassage, hv]
  exact ⟨rfl, rfl⟩

/-- All calls about the key need it to be missing. -/
def OnlyIfMissing (vs : List (Visit ι)) (key : String) : Prop :=
  ∀ v ∈ vs, v.call.target? = some key → ∃ value, v.call = .setIfMissing key (.text value)

/-- Where a key has a value, writes that need it to be missing do nothing. -/
theorem Linked.of_present (h : Linked m vs m') (hm : m.find? (.text key) = some value)
    (hvs : OnlyIfMissing vs key) :
    m'.find? (.text key) = some value ∧
      ∀ v ∈ vs, v.call.target? = some key → v.left = v.found ∧ v.checks = [] := by
  induction vs generalizing m with
  | nil =>
    obtain rfl : m' = m := h
    exact ⟨hm, fun v hv => absurd hv List.not_mem_nil⟩
  | cons v vs ih =>
    obtain ⟨rfl, hrest⟩ := h
    rw [OnlyIfMissing, List.forall_mem_cons] at hvs
    have hfirst : v.left.find? (.text key) = some value ∧
        (v.call.target? = some key → v.left = v.found ∧ v.checks = []) := by
      by_cases ht : v.call.target? = some key
      · obtain ⟨w, hw⟩ := hvs.1 ht
        have hvisit := visit_of_present hw hm
        exact ⟨by rw [hvisit.1]; exact hm, fun _ => hvisit⟩
      · exact ⟨(find?_enter_of_target_ne ht).trans hm, fun ht' => absurd ht' ht⟩
    obtain ⟨hlast, hothers⟩ := ih hrest hfirst.1 hvs.2
    exact ⟨hlast, List.forall_mem_cons.2 ⟨hfirst.2, hothers⟩⟩

/-- **Of the writes that need a key to be missing** the first one stores its value, and no
other does. -/
theorem Linked.exists_first (h : Linked m vs m') (hm : m.find? (.text key) = none)
    (hvs : OnlyIfMissing vs key) (hsome : ∃ v ∈ vs, v.call.target? = some key) :
    ∃ before v value after, vs = before ++ v :: after ∧
      v.call = .setIfMissing key (.text value) ∧
      v.left = v.found.insert (.text key) value ∧ v.checks = [key] ∧
      m'.find? (.text key) = some value ∧
      ∀ w ∈ before ++ after, key ∉ w.checks ∧ (w.call.target? = some key → w.left = w.found) := by
  -- the first call about the key splits the others
  have hfind : (vs.find? fun v => v.call.target? == some key).isSome = true := by
    obtain ⟨v, hv, ht⟩ := hsome
    exact List.find?_isSome.2 ⟨v, hv, beq_iff_eq.2 ht⟩
  obtain ⟨v, hv⟩ := Option.isSome_iff_exists.1 hfind
  obtain ⟨htarget, before, after, rfl, hbefore⟩ := List.find?_eq_some_iff_append.1 hv
  have hnone : ∀ w ∈ before, w.call.target? ≠ some key := by
    intro w hw
    simpa using hbefore w hw
  obtain ⟨hfirst, hrest⟩ := linked_append_cons.1 h
  obtain ⟨value, hcall⟩ := hvs v (by simp) (by simpa using htarget)
  have hfound : v.found.find? (.text key) = none :=
    (hfirst.find?_of_target_ne hnone).trans hm
  obtain ⟨hleft, hchecks⟩ := visit_of_missing hcall hfound
  have hstored : v.left.find? (.text key) = some value := by
    rw [hleft, OrderedMap.find?_insert, if_pos rfl]
  obtain ⟨hlast, hafter⟩ := hrest.of_present hstored fun w hw => hvs w (by simp [hw])
  refine ⟨before, v, value, after, rfl, hcall, hleft, hchecks, hlast, ?_⟩
  intro w hw
  rcases List.mem_append.1 hw with hw | hw
  · -- no call before the first one is about the key
    exact ⟨fun hmem => hnone w hw (Visit.target?_of_mem_checks hmem),
      fun ht => absurd ht (hnone w hw)⟩
  · refine ⟨fun hmem => ?_, fun ht => (hafter w hw ht).1⟩
    rw [(hafter w hw (Visit.target?_of_mem_checks hmem)).2] at hmem
    exact absurd hmem List.not_mem_nil

end Missing

/-! ### The clients one by one -/

/-- The program makes these calls, if these are the replies, and then goes on with another one. -/
inductive Program.Makes : Program → List (Call × Reply) → Program → Prop
  | nil {p : Program} : Makes p [] p
  | cons {o : Call} {next : Reply → Program} {r : Reply} {rest : List (Call × Reply)}
      {q : Program} (h : Makes (next r) rest q) : Makes (.call o next) ((o, r) :: rest) q

theorem Program.Makes.concat {p : Program} {os : List (Call × Reply)} {o : Call}
    {next : Reply → Program} (h : p.Makes os (.call o next)) (r : Reply) :
    p.Makes (os ++ [(o, r)]) (next r) := by
  generalize hq : Program.call o next = q at h
  induction h with
  | nil =>
    subst hq
    exact .cons .nil
  | cons _ ih => exact .cons (ih hq)

namespace Client

/-- What the client is still to do, the call that it is making included until its critical
section. -/
def program : Client → Program
  | between p => p
  | prechecked o next => .call o next
  | unsettled _ p => p

/-- The key that has been checked for a critical section to come. -/
def ahead : Client → List String
  | prechecked o _ => o.precheck.toList
  | _ => []

/-- The key that is still to be checked for a critical section of before. -/
def owed : Client → List String
  | unsettled key _ => [key]
  | _ => []

theorem program_after (settles : Option String) (p : Program) :
    (after settles p).program = p := by
  cases settles <;> rfl

theorem owed_after (settles : Option String) (p : Program) :
    (after settles p).owed = settles.toList := by
  cases settles <;> rfl

theorem ahead_after (settles : Option String) (p : Program) : (after settles p).ahead = [] := by
  cases settles <;> rfl

/-- What holds of a client that began with a program, with its critical sections and the keys
that it has checked: it has made the calls of the program, and the keys are those of the calls,
up to the one that it is ahead or owes. -/
structure Sound {ι : Type} (p : Program) (vs : List (Visit ι)) (ks : List String)
    (client : Client) : Prop where
  made : p.Makes (vs.map fun v => (v.call, v.reply)) client.program
  books : ks ++ client.owed = vs.flatMap Visit.checks ++ client.ahead

section Sound

variable {ι : Type} {p q : Program} {vs : List (Visit ι)} {ks : List String} {client : Client}
  {key : String} {o : Call} {next : Reply → Program}

/-- A key that is checked before the critical section puts the client ahead. -/
theorem Sound.precheck (h : Sound p vs ks (.between (.call o next)))
    (first : o.precheck = some key) : Sound p vs (ks ++ [key]) (.prechecked o next) where
  made := h.made
  books := by
    have hbooks := h.books
    simp only [owed, ahead, List.append_nil, first, Option.toList_some] at hbooks ⊢
    rw [hbooks]

/-- A key that is checked afterwards is no longer owed. -/
theorem Sound.settle (h : Sound p vs ks (.unsettled key q)) :
    Sound p vs (ks ++ [key]) (.between q) where
  made := h.made
  books := by
    rw [show (between q).owed = [] from rfl, List.append_nil]
    exact h.books

/-- In its critical section a client makes up for what it is ahead, and owes what comes after. -/
theorem Sound.enter (h : Sound p vs ks client) (hprogram : client.program = .call o next)
    (howed : client.owed = []) (hahead : client.ahead = o.precheck.toList) (v : Visit ι)
    (hv : v.call = o) : Sound p (vs ++ [v]) ks (.after v.passage.settles (next v.reply)) where
  made := by
    have hmade := h.made
    rw [hprogram] at hmade
    rw [program_after, List.map_append, List.map_singleton, hv]
    exact hmade.concat v.reply
  books := by
    have hbooks := h.books
    rw [howed, List.append_nil, hahead] at hbooks
    rw [owed_after, ahead_after, List.append_nil, List.flatMap_append, List.flatMap_singleton,
      Visit.checks, hv, hbooks, List.append_assoc]

end Sound

end Client

namespace Shared

section Order

variable {ι : Type}

/-- The calls of the clients, in the order of their critical sections. -/
def requests (c : Shared ι) : List Request := c.visits.map fun v => v.call.request

/-- The keys that the calls check, each with the client. -/
def due (c : Shared ι) : List (ι × String) :=
  c.visits.flatMap fun v => v.checks.map fun key => (v.client, key)

theorem map_snd_due (c : Shared ι) : c.due.map Prod.snd = c.visits.flatMap Visit.checks := by
  unfold due
  rw [List.map_flatMap]
  refine List.flatMap_congr fun v _ => ?_
  rw [List.map_map]
  exact List.map_id _

/-- The calls that do not check a key have none of its checks. -/
theorem filter_checks_eq_nil {key : String} {ws : List (Visit ι)}
    (h : ∀ w ∈ ws, key ∉ w.checks) :
    (ws.flatMap fun w => w.checks.map fun k => (w.client, k)).filter (·.2 == key) = [] := by
  rw [List.filter_eq_nil_iff]
  intro pair hpair heq
  obtain ⟨w, hw, hmem⟩ := List.mem_flatMap.1 hpair
  obtain ⟨k, hk, rfl⟩ := List.mem_map.1 hmem
  exact h w hw (beq_iff_eq.1 heq ▸ hk)

end Order

section Own

variable {ι : Type} [DecidableEq ι]

/-- The critical sections of a client. -/
def visitsOf (c : Shared ι) (i : ι) : List (Visit ι) := c.visits.filter (·.client == i)

/-- The keys that a client has checked. -/
def checksOf (c : Shared ι) (i : ι) : List String :=
  (c.checked.filter (·.1 == i)).map Prod.snd

variable (c : Shared ι) {i j : ι} (key : String) (client : Client) (o : Call)
  (next : Reply → Program)

theorem checksOf_check_self : (c.check i key client).checksOf i = c.checksOf i ++ [key] := by
  simp [checksOf, check]

theorem checksOf_check_of_ne (h : j ≠ i) :
    (c.check i key client).checksOf j = c.checksOf j := by
  simp [checksOf, check, Ne.symm h]

theorem visitsOf_enter_self :
    (c.enter i o next).visitsOf i = c.visitsOf i ++ [c.visit i o] := by
  simp [visitsOf, enter, visit]

theorem visitsOf_enter_of_ne (h : j ≠ i) : (c.enter i o next).visitsOf j = c.visitsOf j := by
  simp [visitsOf, enter, visit, Ne.symm h]

end Own

/-! ### The invariant -/

/-- The invariant of a store with its clients. -/
structure Inv {ι : Type} [DecidableEq ι] (t : Tables) (s : Store) (p : ι → Program)
    (c : Shared ι) : Prop where
  follows : c.store.Follows t
  linked : Linked s.config c.visits c.store.config
  warned : warningTexts c.events = (c.checked.map Prod.snd).filterMap t.warningText?
  sound : ∀ i, (c.clients i).Sound (p i) (c.visitsOf i) (c.checksOf i)

variable {ι : Type} [DecidableEq ι] {t : Tables} {s : Store} {p : ι → Program} {c c' : Shared ι}
  {i : ι}

theorem Inv.initial (hs : s.Follows t) (p : ι → Program) : Inv t s p (initial s p) where
  follows := hs
  linked := rfl
  warned := rfl
  sound := fun _ => ⟨.nil, rfl⟩

theorem Inv.check (h : Inv t s p c) {key : String} {client : Client}
    (hclient : client.Sound (p i) (c.visitsOf i) (c.checksOf i ++ [key])) :
    Inv t s p (c.check i key client) := by
  obtain ⟨hfollows, hwarn⟩ := h.follows.note key
  refine ⟨hfollows, h.linked, ?_, ?_⟩
  · change warningTexts (c.events ++ (c.store.note key).2)
      = ((c.checked ++ [(i, key)]).map Prod.snd).filterMap t.warningText?
    rw [warningTexts_append, h.warned, hwarn, List.map_append, List.filterMap_append]
    cases htext : t.warningText? key <;> simp [htext]
  · refine (Function.forall_update_iff c.clients fun j client' => client'.Sound (p j)
      ((c.check i key client).visitsOf j) ((c.check i key client).checksOf j)).2 ⟨?_, ?_⟩
    · rw [checksOf_check_self]
      exact hclient
    · intro j hj
      rw [checksOf_check_of_ne c key client hj]
      exact h.sound j

theorem Inv.enter (h : Inv t s p c) {o : Call} {next : Reply → Program}
    (hprogram : (c.clients i).program = .call o next) (howed : (c.clients i).owed = [])
    (hahead : (c.clients i).ahead = o.precheck.toList) : Inv t s p (c.enter i o next) := by
  have hlinked : Linked s.config c.visits (c.visit i o).found := h.linked
  refine ⟨h.follows.withPairs _, hlinked.concat, h.warned, ?_⟩
  refine (Function.forall_update_iff c.clients fun j client => client.Sound (p j)
    ((c.enter i o next).visitsOf j) ((c.enter i o next).checksOf j)).2 ⟨?_, ?_⟩
  · rw [visitsOf_enter_self]
    exact (h.sound i).enter hprogram howed hahead (c.visit i o) rfl
  · intro j hj
    rw [visitsOf_enter_of_ne c o next hj]
    exact h.sound j

/-- **The invariant is kept by every step.** -/
theorem Inv.step (h : Inv t s p c) (hstep : Step c c') : Inv t s p c' := by
  cases hstep with
  | @precheck i o next key calls first =>
    have hsound := h.sound i
    rw [calls] at hsound
    exact h.check (hsound.precheck first)
  | @enter i o next ready =>
    exact h.enter (by rw [ready]; rfl) (by rw [ready]; rfl) (by rw [ready]; rfl)
  | @enterAtOnce i o next calls first =>
    exact h.enter (by rw [calls]; rfl) (by rw [calls]; rfl) (by rw [calls, first]; rfl)
  | @settle i key q owes =>
    have hsound := h.sound i
    rw [owes] at hsound
    exact h.check hsound.settle

theorem Inv.steps (h : Inv t s p c) (hsteps : Steps c c') : Inv t s p c' := by
  induction hsteps with
  | refl => exact h
  | tail _ hstep ih => exact ih.step hstep

/-! ### Checks and calls -/

theorem own_due (c : Shared ι) (i : ι) :
    (c.due.filter (·.1 == i)).map Prod.snd = (c.visitsOf i).flatMap Visit.checks := by
  unfold due visitsOf
  induction c.visits with
  | nil => rfl
  | cons v vs ih =>
    rw [List.flatMap_cons, List.filter_append, List.map_append, ih]
    by_cases hv : v.client = i
    · rw [List.filter_cons_of_pos (by simpa using hv), List.flatMap_cons]
      simp [List.filter_map, Function.comp_def, hv]
    · rw [List.filter_cons_of_neg (by simpa using hv)]
      simp [List.filter_map, Function.comp_def, hv]

/-- Pairs are the same but for their order if those with the same first part are the same. -/
theorem perm_of_own {l l' : List (ι × String)}
    (h : ∀ i, (l.filter (·.1 == i)).map Prod.snd = (l'.filter (·.1 == i)).map Prod.snd) :
    l.Perm l' := by
  -- a pair occurs as often as its second part does among those with its first part
  have hcount : ∀ (l : List (ι × String)) (i : ι) (key : String),
      l.count (i, key) = ((l.filter (·.1 == i)).map Prod.snd).count key := by
    intro l i key
    rw [List.count, List.count, List.countP_map, List.countP_filter]
    refine List.countP_congr fun pair _ => ?_
    simp [Prod.ext_iff, and_comm]
  rw [List.perm_iff_count]
  rintro ⟨i, key⟩
  rw [hcount, hcount, h i]

/-- When all clients have finished, the keys that have been checked are those that the calls
check. -/
theorem Inv.perm_due (h : Inv t s p c) (hdone : c.Finished) : c.checked.Perm c.due := by
  refine perm_of_own fun i => ?_
  have hbooks := (h.sound i).books
  rw [hdone i] at hbooks
  rw [own_due]
  simpa [checksOf, Client.owed, Client.ahead] using hbooks

/-! ### Any order of steps -/

/-- An update is not lost unless a later call is about its key. -/
def KeepsUpdates (c : Shared ι) : Prop :=
  ∀ before v after change, c.visits = before ++ v :: after → v.call.update? = some change →
    (∀ w ∈ after, w.call.target? ≠ some change.key) → c.store.own? change.key = change.value?

/-- Of the calls about a key one has stored its value, which is still there; the others have
left the pairs as they were, and the key has been checked for that one only. -/
def StoresOnce (c : Shared ι) (key : String) : Prop :=
  ∃ before v value after, c.visits = before ++ v :: after ∧
    v.call = .setIfMissing key (.text value) ∧
    v.left = v.found.insert (.text key) value ∧ c.store.own? key = some value ∧
    (∀ w ∈ before ++ after, w.call.target? = some key → w.left = w.found) ∧
    c.checked.filter (·.2 == key) = [(v.client, key)]

theorem Inv.keepsUpdates (h : Inv t s p c) : c.KeepsUpdates := by
  intro before v after change hvisits hupdate hlast
  have hlinked := h.linked
  rw [hvisits] at hlinked
  exact hlinked.find?_of_update? hupdate hlast

theorem Inv.storesOnce (h : Inv t s p c) (hdone : c.Finished) {key : String}
    (hmissing : s.own? key = none) (hvs : OnlyIfMissing c.visits key)
    (hsome : ∃ v ∈ c.visits, v.call.target? = some key) : c.StoresOnce key := by
  obtain ⟨before, v, value, after, hvisits, hcall, hleft, hchecks, hlast, hothers⟩ :=
    h.linked.exists_first hmissing hvs hsome
  refine ⟨before, v, value, after, hvisits, hcall, hleft, hlast, fun w hw => (hothers w hw).2, ?_⟩
  -- of the calls only the one that stores checks the key
  have hbefore := filter_checks_eq_nil fun w hw => (hothers w (List.mem_append_left _ hw)).1
  have hafter := filter_checks_eq_nil fun w hw => (hothers w (List.mem_append_right _ hw)).1
  have hdue : c.due.filter (·.2 == key) = [(v.client, key)] := by
    rw [due, hvisits, List.flatMap_append, List.flatMap_cons, List.filter_append,
      List.filter_append, hbefore, hafter, hchecks]
    simp
  rw [← List.perm_singleton, ← hdue]
  exact (h.perm_due hdone).filter _

/-- **Calls at once are calls in the order of their critical sections.**  Any number of clients
with programs of their own call a store, and their steps come in any order.  The pairs and the
replies, snapshots among them, are those of the same calls one after the other; each client
has made the calls of its program; and when all have finished, the warnings are the same but for
their order.  No update is lost to calls about other keys, and of any number of writes that need
a key to be missing, without other calls about it, exactly one stores its value and has the key
checked. -/
theorem linearizable (t : Tables) (seed : Option (List (Value × Value))) (rs : List Request)
    (p : ι → Program) (h : Steps (initial (reached t seed rs) p) c) :
    c.store.toList = ((reached t seed rs).run c.requests).1.toList ∧
      c.visits.map Visit.reply = (reached t seed rs).replies c.requests ∧
      (∀ i, (p i).Makes ((c.visitsOf i).map fun v => (v.call, v.reply)) (c.clients i).program) ∧
      warningTexts c.events = (c.checked.map Prod.snd).filterMap t.warningText? ∧
      (c.Finished → (warningTexts c.events).Perm
        (warningTexts ((reached t seed rs).run c.requests).2)) ∧
      c.KeepsUpdates ∧
      ∀ key, c.Finished → (reached t seed rs).own? key = none → OnlyIfMissing c.visits key →
        (∃ v ∈ c.visits, v.call.target? = some key) → c.StoresOnce key := by
  have hs := follows_reached t seed rs
  have hinv : Inv t (reached t seed rs) p c := (Inv.initial hs p).steps h
  obtain ⟨hconfig, hreplies, hwarnings⟩ := hinv.linked.run hs
  refine ⟨congrArg OrderedMap.toList hconfig.symm, hreplies.symm, fun i => (hinv.sound i).made,
    hinv.warned, ?_, hinv.keepsUpdates, fun key hdone => hinv.storesOnce hdone⟩
  intro hdone
  change (warningTexts c.events).Perm
    (warningTexts ((reached t seed rs).run (c.visits.map fun v => v.call.request)).2)
  rw [hinv.warned, hwarnings, ← map_snd_due]
  exact ((hinv.perm_due hdone).map Prod.snd).filterMap _

/-- Two clients compete for a missing key that is deprecated; the winner has it checked only
after the other one has come too late, and then takes a snapshot. -/
theorem linearizable_of_competition :
    let t : Tables := ⟨.empty, .ofList [("old", ⟨"old", "1", "Gone."⟩)]⟩
    let p : Bool → Program := fun i =>
      if i then .call (.setIfMissing "old" (.text "a")) fun _ => .finished
      else .call (.setIfMissing "old" (.text "b")) fun _ => .call .iterate fun _ => .finished
    ∃ c : Shared Bool, Steps (initial (reached t none []) p) c ∧ c.Finished ∧
      c.store.toList = [(.text "old", "b")] ∧
      c.visits.map Visit.reply = [.ok .done, .ok .done, .ok (.pairs [(.text "old", "b")])] ∧
      warningTexts c.events = ["The configuration key old has been deprecated as of 1 and " ++
        "may be removed in the future. Gone."] ∧
      c.StoresOnce "old" := by
  intro t p
  have stored : Steps (initial (reached t none []) p) _ :=
    .single (.enterAtOnce (i := false) rfl rfl)
  have late := stored.tail (.enterAtOnce (i := true) rfl rfl)
  have settled := late.tail (.settle (i := false) rfl)
  have copied := settled.tail (.enterAtOnce (i := false) rfl rfl)
  obtain ⟨hpairs, hreplies, -, hwarnings, -, -, honce⟩ := linearizable t none [] p copied
  refine ⟨_, copied, ?_, hpairs.trans rfl, hreplies.trans rfl, hwarnings.trans rfl, ?_⟩
  · intro i
    cases i <;> rfl
  · refine honce "old" (fun i => by cases i <;> rfl) rfl ?_ ⟨_, List.mem_cons_self, rfl⟩
    exact List.forall_mem_cons.2 ⟨fun _ => ⟨"b", rfl⟩, List.forall_mem_cons.2
      ⟨fun _ => ⟨"a", rfl⟩, List.forall_mem_singleton.2 fun htarget => nomatch htarget⟩⟩

end Shared

end Store

end Settings
