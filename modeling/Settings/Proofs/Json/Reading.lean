import Settings.Proofs.Fault
import Settings.Proofs.Json.Tokens

/-!
# Reading printed JSON back

The compact form of a value, if it has one, is read back as the value, with anything after it that
does not go on with a number.  The proof follows the tree of the value: a leaf is a token, and an
array or an object is read if what is in it is read.  The reader counts its calls down from the
length of the text; each call has read a character when it makes another one, so the count outlasts
the tree.

## Main definitions

* `Reads` — a value is read from its compact form.

## Main results

* `treeInduction` — induction on the tree of a value.
* `compact_int_eq`, `compactItems_eq_ok_iff`, `compactFields_eq_ok_iff` — what has a compact form.
* `reads_array`, `reads_object` — what is made of values that are read, is read.
* `read?_compact` — **reading undoes printing.**
* `compact_inj` — different values have different compact forms.
-/

namespace Settings.Json

open Number Text

/-! ### Trees -/

/-- What holds of every leaf, and of an array and an object if it holds of what is in them,
holds of every value. -/
@[elab_as_elim]
theorem treeInduction {P : Json → Prop} (null : P .null) (bool : ∀ b, P (.bool b))
    (int : ∀ n, P (.int n)) (real : ∀ negative n e, P (.real negative n e))
    (infinite : ∀ negative, P (.infinite negative)) (undefined : P .undefined)
    (text : ∀ s, P (.text s)) (array : ∀ items, (∀ item ∈ items, P item) → P (.array items))
    (object : ∀ fields, (∀ field ∈ fields, P field.2) → P (.object fields)) (j : Json) : P j :=
  match j with
  | .null => null
  | .bool b => bool b
  | .int n => int n
  | .real negative n e => real negative n e
  | .infinite negative => infinite negative
  | .undefined => undefined
  | .text s => text s
  | .array items => array items fun item _ =>
    treeInduction null bool int real infinite undefined text array object item
  | .object fields => object fields fun field _ =>
    treeInduction null bool int real infinite undefined text array object field.2
termination_by sizeOf j
decreasing_by
  · have hitem : sizeOf item < sizeOf items := List.sizeOf_lt_of_mem ‹_›
    rw [Json.array.sizeOf_spec]
    omega
  · have hfield : sizeOf field < sizeOf fields := List.sizeOf_lt_of_mem ‹_›
    have hvalue : sizeOf field.2 < sizeOf field := by
      rw [Prod.mk.sizeOf_spec]
      omega
    rw [Json.object.sizeOf_spec]
    omega

/-! ### Compact forms -/

theorem commaSeparated_cons (part : List Char) {parts : List (List Char)} (h : parts ≠ []) :
    commaSeparated (part :: parts) = part ++ ',' :: commaSeparated parts := by
  cases parts with
  | nil => exact absurd rfl h
  | cons p ps => rfl

/-- An integer is written in decimal if it is not too long. -/
theorem compact_int_eq (n : Int) :
    (Json.int n).compact
      = if n.natAbs < 10 ^ digitLimit then .ok (decimalInt n) else .error .tooLongToWrite := by
  rw [compact, printInteger_eq]
  split
  · exact congrArg Except.ok String.toList_ofList
  · rfl

/-- The items of an array have compact forms if each of them has one. -/
theorem compactItems_eq_ok_iff {items : List Json} {parts : List (List Char)} :
    compactItems items = .ok parts ↔
      List.Forall₂ (fun item part => item.compact = .ok part) items parts := by
  induction items generalizing parts with
  | nil =>
    rw [compactItems, Except.ok.injEq, List.forall₂_nil_left_iff]
    exact eq_comm
  | cons item items ih =>
    rw [compactItems, List.forall₂_cons_left_iff, bind_eq_ok_iff]
    constructor
    · rintro ⟨part, hpart, hrest⟩
      obtain ⟨parts', hparts', heq⟩ := bind_eq_ok_iff.1 hrest
      exact ⟨part, parts', hpart, ih.1 hparts', (Except.ok.inj heq).symm⟩
    · rintro ⟨part, parts', hpart, hparts', rfl⟩
      exact ⟨part, hpart, bind_eq_ok_iff.2 ⟨parts', ih.2 hparts', rfl⟩⟩

/-- The compact form of a member: its name, and then that of its value. -/
def Member (field : String × Json) (part : List Char) : Prop :=
  ∃ value, field.2.compact = .ok value ∧ part = quoted field.1.toList ++ ':' :: value

/-- The members of an object have compact forms if the value of each of them has one. -/
theorem compactFields_eq_ok_iff {fields : List (String × Json)} {parts : List (List Char)} :
    compactFields fields = .ok parts ↔ List.Forall₂ Member fields parts := by
  induction fields generalizing parts with
  | nil =>
    rw [compactFields, Except.ok.injEq, List.forall₂_nil_left_iff]
    exact eq_comm
  | cons field fields ih =>
    rw [compactFields, List.forall₂_cons_left_iff, bind_eq_ok_iff]
    constructor
    · rintro ⟨value, hvalue, hrest⟩
      obtain ⟨parts', hparts', heq⟩ := bind_eq_ok_iff.1 hrest
      exact ⟨_, parts', ⟨value, hvalue, rfl⟩, ih.1 hparts', (Except.ok.inj heq).symm⟩
    · rintro ⟨_, parts', ⟨value, hvalue, rfl⟩, hparts', rfl⟩
      exact ⟨value, hvalue, bind_eq_ok_iff.2 ⟨parts', ih.2 hparts', rfl⟩⟩

theorem compact_array_eq_ok_iff {items : List Json} {cs : List Char} :
    (Json.array items).compact = .ok cs ↔
      ∃ parts, List.Forall₂ (fun item part => item.compact = .ok part) items parts ∧
        cs = '[' :: commaSeparated parts ++ [']'] := by
  rw [compact, bind_eq_ok_iff]
  refine exists_congr fun parts => and_congr compactItems_eq_ok_iff ?_
  exact ⟨fun h => (Except.ok.inj h).symm, fun h => congrArg Except.ok h.symm⟩

theorem compact_object_eq_ok_iff {fields : List (String × Json)} {cs : List Char} :
    (Json.object fields).compact = .ok cs ↔
      ∃ parts, List.Forall₂ Member fields parts ∧
        cs = '{' :: commaSeparated parts ++ ['}'] := by
  rw [compact, bind_eq_ok_iff]
  refine exists_congr fun parts => and_congr compactFields_eq_ok_iff ?_
  exact ⟨fun h => (Except.ok.inj h).symm, fun h => congrArg Except.ok h.symm⟩

/-! ### Leaves -/

/-- A value is read from its compact form, if it has one, with anything after it that does not go
on with a number, if there is fuel for all its characters. -/
def Reads (j : Json) : Prop :=
  ∀ cs, j.compact = .ok cs → ∀ fuel rest, cs.length < fuel → EndsNumber rest →
    readValue fuel (cs ++ rest) = some (j, rest)

/-- Whatever the text is, the fuel lasts for one call. -/
theorem reads_of_succ {j : Json} (h : ∀ cs, j.compact = .ok cs → ∀ fuel rest, cs.length ≤ fuel →
    EndsNumber rest → readValue (fuel + 1) (cs ++ rest) = some (j, rest)) : Reads j := by
  intro cs hcs fuel rest hfuel hrest
  obtain ⟨fuel, rfl⟩ := Nat.exists_eq_succ_of_ne_zero (Nat.ne_zero_of_lt hfuel)
  exact h cs hcs fuel rest (Nat.le_of_lt_succ hfuel) hrest

/-- A leaf has one compact form, and nothing is called for it but the reader itself. -/
theorem reads_of_leaf {j : Json} {cs : List Char} (hcs : j.compact = .ok cs)
    (h : ∀ fuel rest, EndsNumber rest → readValue (fuel + 1) (cs ++ rest) = some (j, rest)) :
    Reads j := by
  refine reads_of_succ fun cs' hcs' fuel rest _ hrest => ?_
  obtain rfl := Except.ok.inj (hcs.symm.trans hcs')
  exact h fuel rest hrest

theorem skipBlank_cons {c : Char} (h : isBlank c = false) (cs : List Char) :
    skipBlank (c :: cs) = c :: cs := by
  rw [skipBlank, List.dropWhile_cons, h, if_neg Bool.false_ne_true]

/-- A text that begins as a number is read as a number. -/
theorem readValue_of_startsNumber {c : Char} (h : StartsNumber c) (fuel : Nat) (cs : List Char) :
    readValue (fuel + 1) (c :: cs) = readNumber (c :: cs) := by
  have hne {d : Char} (hd : ¬ StartsNumber d) : c ≠ d := fun heq => hd (heq ▸ h)
  have hnull : c ≠ 'n' := hne (by decide)
  have htrue : c ≠ 't' := hne (by decide)
  have hfalse : c ≠ 'f' := hne (by decide)
  have hstring : c ≠ '"' := hne (by decide)
  have harray : c ≠ '[' := hne (by decide)
  have hobject : c ≠ '\x7b' := hne (by decide)
  rw [readValue, skipBlank_cons h.isBlank_eq_false]
  simp [hnull, htrue, hfalse, hstring, harray, hobject]

/-- A compact form of a number is one that the reader takes for a number. -/
theorem reads_of_number {j : Json} {cs : List Char} (hcs : j.compact = .ok cs)
    (hstart : ∃ c cs', cs = c :: cs' ∧ StartsNumber c)
    (h : ∀ rest, EndsNumber rest → readNumber (cs ++ rest) = some (j, rest)) : Reads j := by
  refine reads_of_leaf hcs fun fuel rest hrest => ?_
  obtain ⟨c, cs', rfl, hc⟩ := hstart
  rw [← h rest hrest]
  exact readValue_of_startsNumber hc fuel (cs' ++ rest)

theorem exists_cons_decimalInt (n : Int) : ∃ c cs, decimalInt n = c :: cs ∧ StartsNumber c := by
  cases n with
  | ofNat n =>
    obtain ⟨c, cs, hcs, hc⟩ := exists_cons_decimal n
    exact ⟨c, cs, hcs, .inl hc⟩
  | negSucc n => exact ⟨_, _, rfl, by decide⟩

theorem reads_int (n : Int) : Reads (.int n) := by
  by_cases hshort : n.natAbs < 10 ^ digitLimit
  · have hcs : (Json.int n).compact = .ok (decimalInt n) := by rw [compact_int_eq, if_pos hshort]
    exact reads_of_number hcs (exists_cons_decimalInt n) fun _ => readNumber_decimalInt n
  · intro cs hcs
    rw [compact_int_eq, if_neg hshort] at hcs
    cases hcs

theorem exists_cons_realText (negative : Bool) (n : Nat) (e : Int) :
    ∃ c cs, realText negative n e = c :: cs ∧ StartsNumber c := by
  cases negative with
  | false =>
    obtain ⟨c, cs, hcs, hc⟩ := exists_cons_decimal n
    refine ⟨c, cs ++ 'e' :: decimalInt e, ?_, .inl hc⟩
    rw [← List.cons_append, ← hcs]
    rfl
  | true => exact ⟨_, _, rfl, by decide⟩

theorem reads_real (negative : Bool) (n : Nat) (e : Int) : Reads (.real negative n e) :=
  reads_of_number rfl (exists_cons_realText negative n e) fun _ => readNumber_realText negative n e

theorem reads_infinite (negative : Bool) : Reads (.infinite negative) := by
  cases negative with
  | false => exact reads_of_number rfl ⟨_, _, rfl, by decide⟩ fun rest _ => rfl
  | true => exact reads_of_number rfl ⟨_, _, rfl, by decide⟩ fun rest _ => rfl

theorem reads_undefined : Reads .undefined :=
  reads_of_number rfl ⟨_, _, rfl, by decide⟩ fun _ _ => rfl

theorem reads_null : Reads .null := reads_of_leaf rfl fun _ _ _ => rfl

theorem reads_bool (b : Bool) : Reads (.bool b) := by
  cases b <;> exact reads_of_leaf rfl fun _ _ _ => rfl

theorem reads_text (s : String) : Reads (.text s) := by
  refine reads_of_leaf rfl fun fuel rest _ => ?_
  obtain ⟨cs, hcs, hread⟩ := readString_quoted s rest
  rw [hcs, readValue, skipBlank_cons rfl]
  show (readString cs).map (fun p => (Json.text p.1, p.2)) = _
  rw [hread]
  rfl

/-! ### Arrays and objects -/

theorem endsNumber_cons {c : Char} (h : c = ',' ∨ c = ']' ∨ c = '}') (cs : List Char) :
    EndsNumber (c :: cs) := by
  intro d hd
  obtain rfl := Option.some.inj hd
  rcases h with rfl | rfl | rfl <;> decide

/-- No compact form begins with a blank or with the end of an array. -/
theorem exists_cons_compact {j : Json} {cs : List Char} (h : j.compact = .ok cs) :
    ∃ c cs', cs = c :: cs' ∧ isBlank c = false ∧ c ≠ ']' := by
  have hnumber {cs : List Char} (h : ∃ c cs', cs = c :: cs' ∧ StartsNumber c) :
      ∃ c cs', cs = c :: cs' ∧ isBlank c = false ∧ c ≠ ']' := by
    obtain ⟨c, cs', hcs, hc⟩ := h
    exact ⟨c, cs', hcs, hc.isBlank_eq_false, fun heq => absurd (heq ▸ hc) (by decide)⟩
  cases j with
  | null => exact Except.ok.inj h ▸ ⟨_, _, rfl, by decide⟩
  | bool b => cases b <;> exact Except.ok.inj h ▸ ⟨_, _, rfl, by decide⟩
  | int n =>
    rw [compact_int_eq] at h
    split at h
    · exact Except.ok.inj h ▸ hnumber (exists_cons_decimalInt n)
    · cases h
  | real negative n e => exact Except.ok.inj h ▸ hnumber (exists_cons_realText negative n e)
  | infinite negative => cases negative <;> exact Except.ok.inj h ▸ ⟨_, _, rfl, by decide⟩
  | undefined => exact Except.ok.inj h ▸ ⟨_, _, rfl, by decide⟩
  | text s => exact Except.ok.inj h ▸ ⟨_, _, rfl, by decide⟩
  | array items =>
    obtain ⟨parts, -, rfl⟩ := compact_array_eq_ok_iff.1 h
    exact ⟨_, _, rfl, by decide⟩
  | object fields =>
    obtain ⟨parts, -, rfl⟩ := compact_object_eq_ok_iff.1 h
    exact ⟨_, _, rfl, by decide⟩

/-- One item of an array is read, and what follows it says whether it is the last. -/
theorem readItems_item {item : Json} (hitem : Reads item) {part : List Char}
    (hpart : item.compact = .ok part) {fuel : Nat} (hfuel : part.length < fuel)
    (rest : List Char) :
    readItems (fuel + 1) (part ++ ']' :: rest) = some ([item], rest) ∧
    readItems (fuel + 1) (part ++ ',' :: rest)
      = (readItems fuel rest).map fun p => (item :: p.1, p.2) := by
  have hlast := hitem part hpart fuel _ hfuel (endsNumber_cons (.inr (.inl rfl)) rest)
  have hmore := hitem part hpart fuel _ hfuel (endsNumber_cons (.inl rfl) rest)
  constructor
  · rw [readItems, hlast]
    rfl
  · rw [readItems, hmore]
    show (readItems fuel rest).bind (fun p => some (item :: p.1, p.2)) = _
    cases readItems fuel rest <;> rfl

/-- The items of an array are read up to the bracket. -/
theorem readItems_parts {items : List Json} {parts : List (List Char)}
    (hparts : List.Forall₂ (fun item part => item.compact = .ok part) items parts)
    (hne : items ≠ []) (h : ∀ item ∈ items, Reads item) {fuel : Nat} (rest : List Char)
    (hfuel : (commaSeparated parts).length + 1 < fuel) :
    readItems fuel (commaSeparated parts ++ ']' :: rest) = some (items, rest) := by
  induction hparts generalizing fuel with
  | nil => exact absurd rfl hne
  | @cons item part items parts hpart hparts ih =>
    have hitem : Reads item := h item List.mem_cons_self
    obtain ⟨fuel, rfl⟩ := Nat.exists_eq_succ_of_ne_zero (Nat.ne_zero_of_lt hfuel)
    cases hparts with
    | nil =>
      simp only [commaSeparated] at hfuel
      exact (readItems_item hitem hpart (by omega) rest).1
    | cons hpart' hparts =>
      rw [commaSeparated_cons _ (List.cons_ne_nil _ _)] at hfuel ⊢
      simp only [List.length_append, List.length_cons] at hfuel
      simp only [List.append_assoc, List.cons_append]
      -- the comma pays for the call that reads the rest
      have hrest : readItems fuel (commaSeparated _ ++ ']' :: rest) = some (_, rest) :=
        ih (List.cons_ne_nil _ _) (fun item' hmem => h item' (List.mem_cons_of_mem item hmem))
          (by omega)
      rw [(readItems_item hitem hpart (by omega) _).2, hrest]
      rfl

theorem exists_cons_items {items : List Json} {parts : List (List Char)}
    (hparts : List.Forall₂ (fun item part => item.compact = .ok part) items parts)
    (hne : items ≠ []) :
    ∃ c cs, commaSeparated parts = c :: cs ∧ isBlank c = false ∧ c ≠ ']' := by
  cases hparts with
  | nil => exact absurd rfl hne
  | @cons item part items parts hpart hparts =>
    obtain ⟨c, cs, rfl, hc⟩ := exists_cons_compact hpart
    cases parts with
    | nil => exact ⟨c, cs, rfl, hc⟩
    | cons part' parts => exact ⟨c, _, rfl, hc⟩

theorem reads_array {items : List Json} (h : ∀ item ∈ items, Reads item) :
    Reads (.array items) := by
  refine reads_of_succ fun cs hcs fuel rest hfuel _ => ?_
  obtain ⟨parts, hparts, rfl⟩ := compact_array_eq_ok_iff.1 hcs
  simp only [List.length_cons, List.length_append, List.length_nil] at hfuel
  simp only [List.cons_append, List.append_assoc, List.nil_append]
  rw [readValue, skipBlank_cons rfl]
  by_cases hitems : items = []
  · subst hitems
    cases hparts
    rfl
  · have hread : readItems fuel (commaSeparated parts ++ ']' :: rest) = some (items, rest) :=
      readItems_parts hparts hitems h rest (by omega)
    obtain ⟨c, cs, hcs, hblank, hc⟩ := exists_cons_items hparts hitems
    rw [hcs, List.cons_append] at hread ⊢
    simp only [skipBlank_cons hblank]
    split
    · next heq => exact absurd (List.cons.inj heq).1 hc
    · rw [hread]
      rfl

/-- One member of an object is read, and what follows it says whether it is the last. -/
theorem readFields_field {field : String × Json} (hvalue : Reads field.2) {part : List Char}
    (hpart : Member field part) {fuel : Nat} (hfuel : part.length < fuel) (rest : List Char) :
    readFields (fuel + 1) (part ++ '}' :: rest) = some ([field], rest) ∧
    readFields (fuel + 1) (part ++ ',' :: rest)
      = (readFields fuel rest).map fun p => (field :: p.1, p.2) := by
  obtain ⟨name, value⟩ := field
  obtain ⟨cs, hcs, rfl⟩ := hpart
  have hshort : cs.length < fuel := by
    simp only [List.length_append, List.length_cons] at hfuel
    omega
  have hlast := hvalue cs hcs fuel _ hshort (endsNumber_cons (.inr (.inr rfl)) rest)
  have hmore := hvalue cs hcs fuel _ hshort (endsNumber_cons (.inl rfl) rest)
  simp only [List.append_assoc, List.cons_append]
  constructor
  · obtain ⟨ds, hds, hname⟩ := readString_quoted name (':' :: (cs ++ '}' :: rest))
    rw [hds, readFields, skipBlank_cons rfl]
    simp only [hname, Option.bind_eq_bind, Option.bind_some, skipBlank_cons (c := ':') rfl, hlast]
    rfl
  · obtain ⟨ds, hds, hname⟩ := readString_quoted name (':' :: (cs ++ ',' :: rest))
    rw [hds, readFields, skipBlank_cons rfl]
    simp only [hname, Option.bind_eq_bind, Option.bind_some, skipBlank_cons (c := ':') rfl, hmore]
    show (readFields fuel rest).bind (fun p => some ((name, value) :: p.1, p.2)) = _
    cases readFields fuel rest <;> rfl

/-- The members of an object are read up to the brace. -/
theorem readFields_parts {fields : List (String × Json)} {parts : List (List Char)}
    (hparts : List.Forall₂ Member fields parts) (hne : fields ≠ [])
    (h : ∀ field ∈ fields, Reads field.2) {fuel : Nat} (rest : List Char)
    (hfuel : (commaSeparated parts).length + 1 < fuel) :
    readFields fuel (commaSeparated parts ++ '}' :: rest) = some (fields, rest) := by
  induction hparts generalizing fuel with
  | nil => exact absurd rfl hne
  | @cons field part fields parts hpart hparts ih =>
    have hvalue : Reads field.2 := h field List.mem_cons_self
    obtain ⟨fuel, rfl⟩ := Nat.exists_eq_succ_of_ne_zero (Nat.ne_zero_of_lt hfuel)
    cases hparts with
    | nil =>
      simp only [commaSeparated] at hfuel
      exact (readFields_field hvalue hpart (by omega) rest).1
    | cons hpart' hparts =>
      rw [commaSeparated_cons _ (List.cons_ne_nil _ _)] at hfuel ⊢
      simp only [List.length_append, List.length_cons] at hfuel
      simp only [List.append_assoc, List.cons_append]
      have hrest : readFields fuel (commaSeparated _ ++ '}' :: rest) = some (_, rest) :=
        ih (List.cons_ne_nil _ _) (fun field' hmem => h field' (List.mem_cons_of_mem field hmem))
          (by omega)
      rw [(readFields_field hvalue hpart (by omega) _).2, hrest]
      rfl

theorem reads_object {fields : List (String × Json)} (h : ∀ field ∈ fields, Reads field.2) :
    Reads (.object fields) := by
  refine reads_of_succ fun cs hcs fuel rest hfuel _ => ?_
  obtain ⟨parts, hparts, rfl⟩ := compact_object_eq_ok_iff.1 hcs
  simp only [List.length_cons, List.length_append, List.length_nil] at hfuel
  simp only [List.cons_append, List.append_assoc, List.nil_append]
  rw [readValue, skipBlank_cons rfl]
  by_cases hfields : fields = []
  · subst hfields
    cases hparts
    rfl
  · have hread : readFields fuel (commaSeparated parts ++ '}' :: rest) = some (fields, rest) :=
      readFields_parts hparts hfields h rest (by omega)
    -- a member begins with the quote of its name, and so do the members together
    obtain ⟨cs, hcs⟩ : ∃ cs, commaSeparated parts = '"' :: cs := by
      cases hparts with
      | nil => exact absurd rfl hfields
      | @cons field part fields parts hpart hparts =>
        obtain ⟨value, -, rfl⟩ := hpart
        cases parts <;> exact ⟨_, rfl⟩
    rw [hcs, List.cons_append] at hread ⊢
    simp only [skipBlank_cons (c := '"') rfl]
    show (readFields fuel ('"' :: (cs ++ '}' :: rest))).map (fun p => (Json.object p.1, p.2)) = _
    rw [hread]
    rfl

/-- Every value is read from its compact form. -/
theorem reads (j : Json) : Reads j := by
  induction j using treeInduction with
  | null => exact reads_null
  | bool b => exact reads_bool b
  | int n => exact reads_int n
  | real negative n e => exact reads_real negative n e
  | infinite negative => exact reads_infinite negative
  | undefined => exact reads_undefined
  | text s => exact reads_text s
  | array items ih => exact reads_array ih
  | object fields ih => exact reads_object ih

/-- **Reading undoes printing**, for every value that is printed. -/
theorem read?_compact {j : Json} {cs : List Char} (h : j.compact = .ok cs) :
    read? (String.ofList cs) = some j := by
  have hread := reads j cs h (cs.length + 1) [] (Nat.lt_succ_self _) nofun
  rw [List.append_nil] at hread
  rw [read?, String.toList_ofList]
  simp only [hread]
  rfl

/-- Different values have different compact forms. -/
theorem compact_inj {j j' : Json} {cs : List Char} (h : j.compact = .ok cs)
    (h' : j'.compact = .ok cs) : j = j' :=
  Option.some.inj ((read?_compact h).symm.trans (read?_compact h'))

end Settings.Json
