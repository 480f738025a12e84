import Mathlib
import Settings.Log.Layout
import Settings.Proofs.Json.OneLine

/-!
# Log lines in JSON

A record in JSON is one line, whatever its texts are, and reading the line gives the fields back
as they are: no text gets out of its field, and none is lost.  So the line of a record is as good
as what is shown of it.  The one field that is no text is the number of a line of code, and it has
to be short enough to be written; if it is not, then there is no line.

## Main results

* `format_json` — the line of a record is that of what is shown of it.
* `Shown.fields_inj` — the fields show everything.
* `Shown.exists_json`, `Shown.json_of_overlong` — what is shown has a line unless its number is too
  long.
* `Shown.json_lossless` — **a line gives back the record that it was written for.**
* `no_line` — records without a line.
-/

namespace Settings.Log

open Number

/-- A record is written in JSON if its level has a name, its time and its message can be made, and
what is shown of it has a line; the first of these that fails is the fault. -/
theorem format_json (r : Record) :
    Layout.json.format r = r.levelName.bind fun level =>
      (Layout.json.time r).bind fun time => r.message.bind fun message =>
        (r.shown level time message).json.mapError .numeral := by
  rw [Layout.format]
  cases r.levelName with
  | error fault => rfl
  | ok level =>
    cases Layout.json.time r with
    | error fault => cases r.message <;> rfl
    | ok time => cases r.message <;> rfl

theorem jsonOption_inj {o o' : Option String} : jsonOption o = jsonOption o' ↔ o = o' := by
  refine ⟨fun h => ?_, fun h => h ▸ rfl⟩
  cases o with
  | none =>
    cases o' with
    | none => rfl
    | some s => cases h
  | some s =>
    cases o' with
    | none => cases h
    | some s' => exact congrArg some (Json.text.inj h)

theorem exists_compact_jsonOption (o : Option String) : ∃ cs, (jsonOption o).compact = .ok cs := by
  cases o with
  | none => exact ⟨_, rfl⟩
  | some s => exact ⟨_, rfl⟩

namespace Shown

/-- The field of an exception is the last one, and there is none without an exception. -/
theorem fields_inj {x y : Shown} : x.fields = y.fields ↔ x = y := by
  refine ⟨fun h => ?_, fun h => h ▸ rfl⟩
  obtain ⟨hframe, hlast⟩ := List.append_inj h rfl
  simp only [List.cons.injEq, Prod.mk.injEq, true_and, and_true, Json.text.injEq, Json.int.injEq,
    jsonOption_inj] at hframe
  have hexception : x.exception = y.exception := by
    cases hx : x.exception with
    | none =>
      cases hy : y.exception with
      | none => rfl
      | some e => simp [hx, hy] at hlast
    | some e =>
      cases hy : y.exception with
      | none => simp [hx, hy] at hlast
      | some e' => simpa [hx, hy] using hlast
  obtain ⟨htime, hlogger, hlevel, hmodule, hfunction, hline, hmessage⟩ := hframe
  cases x
  cases y
  simp only [mk.injEq]
  exact ⟨htime, hlogger, hlevel, hmodule, hfunction, hline, hmessage, hexception⟩

/-- What is shown has a line if the number of its line of code can be written. -/
theorem exists_json {x : Shown} (h : x.line.natAbs < 10 ^ digitLimit) :
    ∃ line, x.json = .ok line := by
  have hline : printInteger x.line = .ok (numeralInt x.line) := by
    rw [printInteger_eq, if_pos h]
  obtain ⟨cs, hfunction⟩ := exists_compact_jsonOption x.function
  simp only [json, fields, Json.compact, List.cons_append, Json.compactFields, hfunction, hline]
  cases x.exception <;> exact ⟨_, rfl⟩

theorem json_of_overlong {x : Shown} (h : 10 ^ digitLimit ≤ x.line.natAbs) :
    x.json = .error .tooLongToWrite := by
  have hline : printInteger x.line = .error .tooLongToWrite := by
    rw [printInteger_eq, if_neg (Nat.not_lt.2 h)]
  obtain ⟨cs, hfunction⟩ := exists_compact_jsonOption x.function
  -- the number stands before the optional last field, so the fault does not depend on that
  simp only [json, fields, Json.compact, List.cons_append, Json.compactFields, hfunction, hline]
  rfl

/-- A line is the compact form of the object of the fields. -/
theorem exists_compact {x : Shown} {line : String} (h : x.json = .ok line) :
    ∃ cs, (Json.object x.fields).compact = .ok cs ∧ line = String.ofList cs := by
  unfold json at h
  cases hcs : (Json.object x.fields).compact with
  | error fault =>
    rw [hcs] at h
    cases h
  | ok cs =>
    rw [hcs] at h
    exact ⟨cs, rfl, (Except.ok.inj h).symm⟩

theorem printed_json {x : Shown} {line : String} (h : x.json = .ok line) :
    Json.Printed line.toList := by
  obtain ⟨cs, hcs, rfl⟩ := exists_compact h
  rw [String.toList_ofList]
  exact Json.printed_compact hcs

theorem read?_json {x : Shown} {line : String} (h : x.json = .ok line) :
    Json.read? line = some (.object x.fields) := by
  obtain ⟨cs, hcs, rfl⟩ := exists_compact h
  exact Json.read?_compact hcs

theorem json_inj {x y : Shown} {line : String} (hx : x.json = .ok line) :
    y.json = .ok line ↔ x = y := by
  refine ⟨fun hy => ?_, fun h => h ▸ hx⟩
  obtain ⟨cs, hcs, rfl⟩ := exists_compact hx
  obtain ⟨cs', hcs', heq⟩ := exists_compact hy
  obtain rfl := String.ofList_inj.1 heq
  exact fields_inj.1 (Json.object.inj (Json.compact_inj hcs hcs'))

/-- **A line gives back the record that it was written for.**  What is shown has a line if the
number of its line of code has at most `digitLimit` digits, and otherwise that is the fault.  A
line has no character below U+0020; what is read of it are the fields of the record, each once and
in order, and an exception only if there is one; different records have different lines; and these
are the lines of the layout. -/
theorem json_lossless :
    (∀ x : Shown, x.line.natAbs < 10 ^ digitLimit →
      ∃ line, x.json = .ok line ∧ (∀ c ∈ line.toList, 0x20 ≤ c.toNat) ∧
        Json.read? line = some (.object
          ([("timestamp", .text x.time), ("logger", .text x.logger), ("level", .text x.level),
            ("module", .text x.module), ("function", jsonOption x.function),
            ("line", .int x.line), ("message", .text x.message)] ++
            (x.exception.map fun e => ("exception", Json.text e)).toList))) ∧
    (∀ x : Shown, 10 ^ digitLimit ≤ x.line.natAbs → x.json = .error .tooLongToWrite) ∧
    (∀ (x y : Shown) (line : String), x.json = .ok line → (y.json = .ok line ↔ x = y)) ∧
    ∀ r : Record, Layout.json.format r = r.levelName.bind fun level =>
      (Layout.json.time r).bind fun time => r.message.bind fun message =>
        (r.shown level time message).json.mapError .numeral := by
  refine ⟨fun x h => ?_, fun x h => json_of_overlong h, fun x y line hx => json_inj hx, format_json⟩
  obtain ⟨line, hline⟩ := exists_json h
  exact ⟨line, hline, printed_json hline, read?_json hline⟩

/-- A message that pretends to end its line and to go on with a line of its own. -/
theorem json_lossless_of_forgery :
    let x : Shown := ⟨"1970-01-01T00:00:00", "a.b", "Level \"7\"", "mod", none, -3,
      "done\"\x7d\n\x7b\"message\":\"\\u0000\x01é", some "KeyError: '\t'"⟩
    let y : Shown := { x with exception := none }
    x.line.natAbs < 10 ^ digitLimit ∧
      ∃ line, x.json = .ok line ∧ '\n' ∉ line.toList ∧
        Json.read? line = some (.object x.fields) ∧ y.json ≠ .ok line := by
  intro x y
  obtain ⟨hwritten, -, hinj, -⟩ := json_lossless
  have hshort : x.line.natAbs < 10 ^ digitLimit :=
    Nat.lt_of_lt_of_le (by decide : 3 < 10 ^ 1) (Nat.pow_le_pow_right (by decide) (by decide))
  obtain ⟨line, hline, hprinted, hread⟩ := hwritten x hshort
  refine ⟨hshort, line, hline, fun h => ?_, hread, mt (hinj x y line hline).1 (by decide)⟩
  exact absurd (hprinted '\n' h) (by decide)

end Shown

/-! ### Records without a line -/

/-- An argument that is too long leaves no message. -/
theorem fill_of_overlong {n : Int} {fault : NumeralFault} (h : printInteger n = .error fault) :
    fill "%s" [.int n] = .error (.numeral fault) := by
  have hpieces : pieces "%s".toList = [.place ⟨.absent, [], .absent, .absent, some 's', 1⟩] := by
    cbv
  have hwritten (s : Shape) : written s id (Value.int n).display = .error (.numeral fault) := by
    have hdisplay : (Value.int n).display = .error fault := h
    rw [hdisplay]
    rfl
  have hplace : fillPlace (.ofValues [.int n]) ⟨.absent, [], .absent, .absent, some 's', 1⟩
      = .error (.numeral fault) := by
    show ((written _ id (Value.int n).display).bind fun _ => _) = _
    rw [hwritten]
    rfl
  show (fillPieces (.ofValues [.int n]) (pieces "%s".toList)).map String.ofList = _
  rw [hpieces, fillPieces, hplace]
  rfl

section NoLine

variable {r : Record} {level time message : String}

/-- A line number that is too long is found out when all else of the record has been made. -/
theorem format_of_overlong (hlevel : r.levelName = .ok level)
    (htime : Layout.json.time r = .ok time) (hmessage : r.message = .ok message)
    (hline : 10 ^ digitLimit ≤ r.line.natAbs) :
    Layout.json.format r = .error (.numeral .tooLongToWrite) := by
  rw [format_json, hlevel, htime, hmessage]
  exact congrArg (Except.mapError RecordFault.numeral) (Shown.json_of_overlong hline)

theorem format_of_message_fault {fault : RecordFault} (hlevel : r.levelName = .ok level)
    (htime : Layout.json.time r = .ok time) (hmessage : r.message = .error fault) :
    Layout.json.format r = .error fault := by
  rw [format_json, hlevel, htime, hmessage]
  rfl

theorem format_of_time_fault {fault : RecordFault} (hlevel : r.levelName = .ok level)
    (htime : Layout.json.time r = .error fault) : Layout.json.format r = .error fault := by
  rw [format_json, hlevel, htime]
  rfl

end NoLine

/-- Three records without a line: the number of its line of code is too long, or that of its
argument, or its time lies in a year that has no date. -/
theorem no_line :
    let r : Record := ⟨"a", 20, "m", [], "mod.py", 1, none, ⟨0⟩, none⟩
    Layout.json.format { r with line := (10 ^ digitLimit : Nat) }
        = .error (.numeral .tooLongToWrite) ∧
      Layout.json.format { r with template := "%s", args := [.int (10 ^ digitLimit : Nat)] }
        = .error (.template (.numeral .tooLongToWrite)) ∧
      Layout.json.format { r with moment := ⟨253402300800000⟩ }
        = .error (.moment (.yearOutOfRange 10000)) := by
  intro r
  have htime : (⟨0⟩ : Moment).isoText = .ok "1970-01-01T00:00:00" := by
    have hmicros : (⟨0⟩ : Moment).micros = (0, 0) := by decide +kernel
    rw [Moment.isoText, hmicros]
    cbv
  have hlate : (⟨253402300800000⟩ : Moment).isoText = .error (.yearOutOfRange 10000) := by
    have hmicros : (⟨253402300800000⟩ : Moment).micros = (253402300800, 0) := by decide +kernel
    rw [Moment.isoText, hmicros]
    rfl
  -- the number is a variable here, so that nobody computes its digits
  have hlong : ∀ n : Int, 10 ^ digitLimit ≤ n.natAbs →
      Layout.json.format { r with line := n } = .error (.numeral .tooLongToWrite) ∧
        Layout.json.format { r with template := "%s", args := [.int n] }
          = .error (.template (.numeral .tooLongToWrite)) := by
    intro n hn
    have hprint : printInteger n = .error .tooLongToWrite := by
      rw [printInteger_eq, if_neg (Nat.not_lt.2 hn)]
    have htime' := congrArg (Except.mapError RecordFault.moment) htime
    have hfill := congrArg (Except.mapError RecordFault.template) (fill_of_overlong hprint)
    exact ⟨format_of_overlong rfl htime' rfl hn, format_of_message_fault rfl htime' hfill⟩
  have hn : 10 ^ digitLimit ≤ ((10 ^ digitLimit : Nat) : Int).natAbs :=
    Nat.le_of_eq (Int.natAbs_natCast (10 ^ digitLimit)).symm
  refine ⟨(hlong _ hn).1, (hlong _ hn).2, ?_⟩
  exact format_of_time_fault rfl (congrArg (Except.mapError RecordFault.moment) hlate)

end Settings.Log
