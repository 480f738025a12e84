import Settings.Duration
import Settings.Store.Basic

/-!
# Typed reads and writes

The default of an entry fixes the type that its key is read and written as.  A read as
another type is refused whatever the store holds, and so is a write of a value of
another type.

## Main definitions

* `Store.getString`, `Store.getBoolean`, `Store.getInteger`, `Store.getDuration` — typed
  reads; `Store.read` picks one by its `Accessor`.
* `Store.setRaw`, `Store.setIfMissing`, `Store.setEntry` — writes of values of any kind.
* `Store.setOtherIfMissing` — the same under a key of any kind.
-/

namespace Settings

open Number Text

/-- The text is the word `true` in any case of letters. -/
def isTrue (text : String) : Bool := lower text.toList == ['t', 'r', 'u', 'e']

/-- Sign and digits of a text that is an integer in ASCII. -/
def integerLiteral? (cs : List Char) : Option (Bool × List Char) :=
  let (negative, digits) := takeSign cs
  if digits ≠ [] ∧ digits.all isAsciiDigit then some (negative, digits) else none

/-- The integer of a given width that the value of a key writes. -/
def parseInteger (key value : String) (width : IntWidth) : Except Fault Int :=
  match integerLiteral? value.toList with
  | none => .error (.malformedInteger key value)
  | some (negative, digits) =>
    if digitLimit < digits.length then .error (.numeral (.tooLongToRead digits.length))
    else
      let n := signed negative (Duration.digitsValue digits)
      if width.holds n then .ok n else .error (.integerOutOfRange key width value n)

/-- The text that a value is stored as. -/
def Value.stored : Value → Except NumeralFault String
  | .scalar (.bool b) => .ok (if b then "true" else "false")
  | v => v.display

namespace Store

/-! ### Reads -/

/-- The text of a text entry. -/
def getString (s : Store) (e : Entry) : Except Fault (Option String) :=
  match e.default with
  | .scalar .null => .ok (s.get e.key)
  | .scalar (.text d) => .ok (some ((s.get e.key).getD d))
  | d => .error (.wrongAccessor e.key d.type .text)

/-- The truth value of a truth value entry. -/
def getBoolean (s : Store) (e : Entry) : Except Fault Bool :=
  match e.default with
  | .scalar (.bool d) => .ok (((s.get e.key).map isTrue).getD d)
  | d => .error (.wrongAccessor e.key d.type .bool)

/-- The integer of an integer entry; the default is returned as it is. -/
def getInteger (s : Store) (width : IntWidth) (e : Entry) : Except Fault Int :=
  match e.default with
  | .scalar (.int d) =>
    match s.get e.key with
    | some value => parseInteger e.key value width
    | none => .ok d
  | d => .error (.wrongAccessor e.key d.type .int)

/-- The milliseconds of a text entry that holds a duration. -/
def getDuration (s : Store) (e : Entry) : Except Fault Nat :=
  match e.default with
  | .scalar .null =>
    match s.get e.key with
    | some value => Duration.ofText value
    | none => .error (.missingDuration e.key)
  | .scalar (.text d) => Duration.ofText ((s.get e.key).getD d)
  | d => .error (.wrongAccessor e.key d.type .text)

end Store

/-- The ways to read an entry. -/
inductive Accessor where
  | string
  | boolean
  | integer (width : IntWidth)
  | duration
  deriving DecidableEq, Repr, Inhabited

/-- The type of the entries that an accessor reads. -/
def Accessor.type : Accessor → ValueType
  | .string => .text
  | .boolean => .bool
  | .integer _ => .int
  | .duration => .text

namespace Store

/-- The value of an entry by an accessor. -/
def read (s : Store) (a : Accessor) (e : Entry) : Except Fault Scalar :=
  match a with
  | .string => (s.getString e).map fun
    | some value => .text value
    | none => .null
  | .boolean => (s.getBoolean e).map .bool
  | .integer width => (s.getInteger width e).map .int
  | .duration => (s.getDuration e).map fun ms => .int ms

/-- The store after a read of an entry: a read of the wrong type looks nothing up. -/
def afterRead (s : Store) (a : Accessor) (e : Entry) : Store :=
  if e.default.type = a.type then s.afterGet e.key else s

@[simp] theorem config_afterRead (s : Store) (a : Accessor) (e : Entry) :
    (s.afterRead a e).config = s.config := by
  rw [afterRead]
  split
  · exact config_afterGet s e.key
  · rfl

/-! ### What the reads lead to -/

theorem getString_of_get {s : Store} {e : Entry} {value : String}
    (ht : e.default.type = .text) (h : s.get e.key = some value) :
    s.getString e = .ok (some value) := by
  rcases Value.eq_text_of_type ht with hd | ⟨d, hd⟩ <;> simp [getString, hd, h]

theorem getBoolean_of_get {s : Store} {e : Entry} {value : String}
    (ht : e.default.type = .bool) (h : s.get e.key = some value) :
    s.getBoolean e = .ok (isTrue value) := by
  obtain ⟨d, hd⟩ := Value.eq_bool_of_type ht
  simp [getBoolean, hd, h]

theorem getInteger_of_get {s : Store} {e : Entry} {value : String} (w : IntWidth)
    (ht : e.default.type = .int) (h : s.get e.key = some value) :
    s.getInteger w e = parseInteger e.key value w := by
  obtain ⟨d, hd⟩ := Value.eq_int_of_type ht
  simp [getInteger, hd, h]

theorem getDuration_of_get {s : Store} {e : Entry} {value : String}
    (ht : e.default.type = .text) (h : s.get e.key = some value) :
    s.getDuration e = Duration.ofText value := by
  rcases Value.eq_text_of_type ht with hd | ⟨d, hd⟩ <;> simp [getDuration, hd, h]

theorem getString_of_type_ne (s : Store) {e : Entry} (h : e.default.type ≠ .text) :
    s.getString e = .error (.wrongAccessor e.key e.default.type .text) := by
  unfold getString
  split
  · next hd => exact absurd (congrArg Value.type hd) h
  · next hd => exact absurd (congrArg Value.type hd) h
  · rfl

theorem getBoolean_of_type_ne (s : Store) {e : Entry} (h : e.default.type ≠ .bool) :
    s.getBoolean e = .error (.wrongAccessor e.key e.default.type .bool) := by
  unfold getBoolean
  split
  · next hd => exact absurd (congrArg Value.type hd) h
  · rfl

theorem getInteger_of_type_ne (s : Store) {e : Entry} (w : IntWidth)
    (h : e.default.type ≠ .int) :
    s.getInteger w e = .error (.wrongAccessor e.key e.default.type .int) := by
  unfold getInteger
  split
  · next hd => exact absurd (congrArg Value.type hd) h
  · rfl

theorem getDuration_of_type_ne (s : Store) {e : Entry} (h : e.default.type ≠ .text) :
    s.getDuration e = .error (.wrongAccessor e.key e.default.type .text) := by
  unfold getDuration
  split
  · next hd => exact absurd (congrArg Value.type hd) h
  · next hd => exact absurd (congrArg Value.type hd) h
  · rfl

/-- A read as another type is refused, whatever the store holds. -/
theorem read_of_type_ne (s : Store) {a : Accessor} {e : Entry} (h : e.default.type ≠ a.type) :
    s.read a e = .error (.wrongAccessor e.key e.default.type a.type) := by
  cases a with
  | string => rw [read, getString_of_type_ne s h]; rfl
  | boolean => rw [read, getBoolean_of_type_ne s h]; rfl
  | integer w => rw [read, getInteger_of_type_ne s w h]; rfl
  | duration => simp only [read, getDuration_of_type_ne s h]; rfl

/-! ### Writes -/

/-- A write of a value under a bare key: the value has to be a text. -/
def setRaw (s : Store) (key : String) (v : Value) : Outcome Unit :=
  match v with
  | .scalar (.text value) =>
    let (s, events) := s.write key value
    ⟨.ok (), s, events⟩
  | v => ⟨.error (.notText (.text key) key v.type), s, []⟩

/-- A write of a value under a bare key that has no value yet; the check for
deprecation follows the write. -/
def setIfMissing (s : Store) (key : String) (v : Value) : Outcome Unit :=
  match v with
  | .scalar (.text value) =>
    if s.contains key then ⟨.ok (), s, []⟩
    else
      let (s, events) := (s.put key value).note key
      ⟨.ok (), s, events⟩
  | v => ⟨.error (.notText (.text key) key v.type), s, []⟩

/-- A write of a value under a key that is no text and has no value yet. -/
def setOtherIfMissing (s : Store) (key v : Value) : Outcome Unit :=
  match v with
  | .scalar (.text value) =>
    match StoredKey.ofValue? key with
    | none => ⟨.error (.unusableKey key.kindName), s, []⟩
    | some k =>
      if s.holds k then ⟨.ok (), s, []⟩
      else
        let (s, events) := (s.store k value).noteOther
        ⟨.ok (), s, events⟩
  | v =>
    match key.display with
    | .error fault => ⟨.error (.numeral fault), s, []⟩
    | .ok shown => ⟨.error (.notText key shown v.type), s, []⟩

/-- A write of a value under an entry: the value has to be of the type of the default, and
no value removes the key.  The check for deprecation comes before the value is turned into
text, which may yet fail. -/
def setEntry (s : Store) (e : Entry) (v : Value) : Outcome Unit :=
  if !v.fits e.default then ⟨.error (.wrongValueType e.key e.default.type v.type), s, []⟩
  else
    match v with
    | .scalar .null => ⟨.ok (), s.remove e.key, []⟩
    | v =>
      let (s, events) := s.note e.key
      match v.stored with
      | .ok text => ⟨.ok (), s.put e.key text, events⟩
      | .error fault => ⟨.error (.numeral fault), s, events⟩

/-! ### What the writes lead to -/

theorem setRaw_text (s : Store) (key value : String) :
    s.setRaw key (.text value) = ⟨.ok (), (s.write key value).1, (s.write key value).2⟩ := rfl

theorem setRaw_of_not_text (s : Store) (key : String) {v : Value} (hv : v.text? = none) :
    s.setRaw key v = ⟨.error (.notText (.text key) key v.type), s, []⟩ := by
  unfold setRaw
  split
  · exact nomatch hv
  · rfl

theorem setIfMissing_of_contains {s : Store} {key : String} (h : s.contains key = true)
    (value : String) : s.setIfMissing key (.text value) = ⟨.ok (), s, []⟩ := by
  simp only [setIfMissing, h, if_true]

theorem setIfMissing_of_not_contains {s : Store} {key : String} (h : s.contains key = false)
    (value : String) :
    s.setIfMissing key (.text value)
      = ⟨.ok (), ((s.put key value).note key).1, ((s.put key value).note key).2⟩ := by
  simp only [setIfMissing, h, Bool.false_eq_true, if_false]

theorem setIfMissing_of_not_text (s : Store) (key : String) {v : Value} (hv : v.text? = none) :
    s.setIfMissing key v = ⟨.error (.notText (.text key) key v.type), s, []⟩ := by
  unfold setIfMissing
  split
  · exact nomatch hv
  · rfl

theorem setEntry_null (s : Store) (e : Entry) :
    s.setEntry e .null = ⟨.ok (), s.remove e.key, []⟩ := rfl

theorem fits_iff_type_eq {v : Value} (hv : v ≠ .null) (d : Value) :
    v.fits d = true ↔ v.type = d.type := by
  unfold Value.fits
  split
  · exact absurd rfl hv
  · exact beq_iff_eq

theorem setEntry_of_type_ne (s : Store) {e : Entry} {v : Value} (hv : v ≠ .null)
    (ht : v.type ≠ e.default.type) :
    s.setEntry e v = ⟨.error (.wrongValueType e.key e.default.type v.type), s, []⟩ := by
  have hfits : v.fits e.default = false := by
    rw [Bool.eq_false_iff, Ne, fits_iff_type_eq hv]
    exact ht
  simp only [setEntry, hfits, Bool.not_false, if_true]

theorem setEntry_of_type_eq (s : Store) {e : Entry} {v : Value} (hv : v ≠ .null)
    (ht : v.type = e.default.type) :
    s.setEntry e v
      = match v.stored with
        | .ok text => ⟨.ok (), (s.write e.key text).1, (s.write e.key text).2⟩
        | .error fault => ⟨.error (.numeral fault), (s.note e.key).1, (s.note e.key).2⟩ := by
  have hfits : v.fits e.default = true := (fits_iff_type_eq hv e.default).2 ht
  simp only [setEntry, hfits, Bool.not_true, Bool.false_eq_true, if_false]
  cases v.stored <;> rfl

end Store

end Settings
