import Settings.Proofs.Cli.Arguments
import Settings.Proofs.Cli.Outcome
import Settings.Proofs.Store.Seeding

/-!
# Reading one key from the command line

The command that prints the value of a key answers as the library does: it ends well if the
properties file can be loaded and gives the key a value, and, where a duration is asked for, the
value is one.  The options before the command only say which log records stand before the value.

## Main definitions

* `World.properties`, `World.Holds` — what the library finds in a properties file.
* `Transcript.Prints` — a run ends well and prints an output.
* `getLine` — the command line that asks for the value of a key.
* `World.opened` — the screen after the log records of opening a file.

## Main results

* `openStore_eq`, `get_plainStore` — what the store of a file holds.
* `status_get`, `get_value`, `get_duration` — how the command ends, and what it prints.
* `get_as_library` — **the command answers as the library does.**
-/

namespace Settings.Cli

open Terminal Number

/-! ### The library's answer -/

/-- The properties of the file that an argument names. -/
def World.properties (w : World) (file : String) : Except Fault (OrderedMap String String) :=
  (Properties.locate w.here w.here (.ofString file)).bind fun path =>
    (Properties.load w.files path).1

/-- The file can be loaded, and gives the key a value. -/
def World.Holds (w : World) (file key value : String) : Prop :=
  ∃ found, w.properties file = .ok found ∧ found.find? key = some value

theorem World.Holds.unique {w : World} {file key value value' : String}
    (h : w.Holds file key value) (h' : w.Holds file key value') : value = value' := by
  obtain ⟨found, hprops, hfind⟩ := h
  obtain ⟨found', hprops', hfind'⟩ := h'
  obtain rfl : found = found' := Except.ok.inj (hprops.symm.trans hprops')
  exact Option.some.inj (hfind.symm.trans hfind')

/-- What the library finds in a file whose octets stand for a text. -/
theorem World.properties_of_text {w : World} {file : String} {place : Path} {text : List Char}
    (hplace : Properties.locate w.here w.here (.ofString file) = .ok place)
    (hfile : w.files place = some (Text.Utf8.encode text)) :
    w.properties file
      = .ok (Properties.properties ((Properties.parse text).map Prod.snd)) := by
  rw [World.properties, hplace, Except.bind, Properties.load_of_encode hfile]

/-- A run has ended well, and its text ends with the output and the end of a line.  What stands
before that is empty unless the layout of log records is the standard one. -/
structure Transcript.Prints (t : Transcript) (l : Log.Layout) (output : String) : Prop where
  /-- The exit code is 0. -/
  ending : t.ending = .exit 0
  /-- The output comes last. -/
  text : ∃ before : String, t.text = before ++ output ++ "\n" ∧ (l ≠ .standard → before = "")

/-! ### The store of a file -/

/-- The store without tables that is made with a map. -/
def plainStore (m : OrderedMap String String) : Store :=
  (Store.create ⟨.empty, .empty⟩ (some (Store.valuePairs m))).1

theorem textPairs_plainStore (m : OrderedMap String String) :
    (plainStore m).textPairs = m.toList := by
  have hpairs : (plainStore m).toList = m.toList.map Store.ofTextPair :=
    Store.toList_create ⟨.empty, .empty⟩ m
  rw [Store.textPairs, hpairs, List.filterMap_map]
  exact List.filterMap_some

/-- Without tables there are no old keys, so that a store has just the values that it is made
with. -/
theorem get_plainStore (m : OrderedMap String String) (key : String) :
    (plainStore m).get key = m.find? key := by
  have hold : (plainStore m).tables.oldKey? key = none := by
    have htables : (plainStore m).tables = ⟨.empty, .empty⟩ :=
      (Store.follows_reached ⟨.empty, .empty⟩ (some (Store.valuePairs m)) []).tables
    rw [htables]
    rfl
  rw [Store.get_eq, hold, Option.bind_none, Option.or_none, Store.own?_eq_lookup,
    textPairs_plainStore]
  rfl

/-- The store of a file is made with what the library finds in the file. -/
theorem openStore_eq (w : World) (file : String) :
    ∃ events, openStore w (.ofString file) = ((w.properties file).map plainStore, events) := by
  unfold openStore World.properties
  -- a file that is not found and one that cannot be read leave no store; they log differently
  cases hplace : Properties.locate w.here w.here (.ofString file) with
  | error fault =>
    refine ⟨[], ?_⟩
    rw [Store.ofFile, hplace]
    rfl
  | ok path =>
    cases hload : Properties.load w.files path with
    | mk result events =>
      cases result with
      | error fault =>
        refine ⟨events, ?_⟩
        simp only [Store.ofFile, hplace, hload, Except.bind, Except.map]
      | ok found =>
        have hstore := Store.ofFile_of_load hplace hload ⟨.empty, .empty⟩
        rw [Except.bind, hload]
        exact ⟨_, hstore⟩

/-! ### The command line -/

/-- The command line that asks for the value of a key, or for its milliseconds. -/
def getLine (options : List GlobalOption) (asDuration : Bool) (file key : String) :
    List String :=
  options.flatMap GlobalOption.arguments
    ++ "get" :: ((if asDuration then ["--duration"] else []) ++ ["--", file, key])

theorem commandOf?_get (asDuration : Bool) (file key : String) :
    commandOf? "get" ((if asDuration then ["--duration"] else []) ++ ["--", file, key])
      = some (.get file key asDuration) := by
  cases asDuration <;> rfl

/-- The mode of a command line with some options. -/
def World.mode (w : World) (options : List GlobalOption) : Mode :=
  ⟨Cli.isVerbose options || w.isVerbose, chosenLayout options, w.stamp⟩

/-- The screen after the log records of opening a file. -/
def World.opened (w : World) (options : List GlobalOption) (file : String) : Screen :=
  Screen.blank.log (w.mode options) (openStore w (.ofString file)).2

theorem run_getLine (w : World) (options : List GlobalOption) (asDuration : Bool)
    (file key : String) :
    run w (getLine options asDuration file key)
      = let m : Mode := ⟨isVerbose options || w.isVerbose, chosenLayout options, w.stamp⟩
        let ended := (Command.get file key asDuration).run w m .blank
        conclude ended.1 ended.2 := by
  have hargs : Invocation.ofArguments? (getLine options asDuration file key)
      = some ⟨isVerbose options, chosenLayout options, .get file key asDuration⟩ := by
    rw [getLine, ofArguments?_options options (by decide) (by decide) rfl, commandOf?_get]
    rfl
  rw [run, hargs]
  rfl

/-! ### The answer -/

section

variable (w : World) (options : List GlobalOption) (asDuration : Bool) {file key value : String}

/-- The command leaves status 1 if the file does not give the key a value. -/
theorem status_get_of_not_holds (h : ∀ value, ¬ w.Holds file key value) :
    (run w (getLine options asDuration file key)).ending.status = 1 := by
  obtain ⟨events, hopen⟩ := openStore_eq w file
  rw [run_getLine]
  cases hprops : w.properties file with
  | error fault =>
    rw [hprops, Except.map] at hopen
    unfold Command.run
    simp only [hopen]
    exact status_fail _ fault
  | ok found =>
    rw [hprops, Except.map] at hopen
    have hnone : (plainStore found).get key = none := by
      rw [get_plainStore]
      exact Option.eq_none_iff_forall_ne_some.2 fun value hfind => h value ⟨found, hprops, hfind⟩
    unfold Command.run
    simp only [hopen, hnone]
    exact status_finish _ (unsetMessage key)

/-- The command goes on after the log records of opening the file if that gives the key a value. -/
theorem run_get_of_found (h : w.Holds file key value) :
    run w (getLine options asDuration file key)
      = let s := w.opened options file
        let ended := if asDuration then printDuration s value else (s.echo value, .exit 0)
        conclude ended.1 ended.2 := by
  obtain ⟨found, hprops, hfind⟩ := h
  obtain ⟨events, hopen⟩ := openStore_eq w file
  rw [hprops, Except.map] at hopen
  have hvalue : (plainStore found).get key = some value := (get_plainStore found key).trans hfind
  rw [run_getLine, World.opened, hopen]
  cases asDuration with
  | false =>
    unfold Command.run
    simp only [hopen, hvalue]
    rfl
  | true =>
    unfold Command.run
    simp only [hopen, hvalue]
    rfl

/-- The command goes on from a screen with nothing but log records if the file gives the key a
value. -/
theorem run_get_of_holds (h : w.Holds file key value) :
    ∃ s : Screen, (chosenLayout options ≠ .standard → s.text = "") ∧
      run w (getLine options asDuration file key)
        = let ended := if asDuration then printDuration s value else (s.echo value, .exit 0)
          conclude ended.1 ended.2 := by
  refine ⟨w.opened options file, fun hl => ?_, run_get_of_found w options asDuration h⟩
  rw [World.opened, Screen.log_of_layout_ne hl]
  rfl

/-- The command ends well if the file gives the key a value, and prints it as it is if no control
sequence can start in it. -/
theorem get_value (h : w.Holds file key value) :
    (run w (getLine options false file key)).ending = .exit 0 ∧
      ('\x1b' ∉ value.toList →
        (run w (getLine options false file key)).Prints (chosenLayout options) value) := by
  obtain ⟨s, hblank, hrun⟩ := run_get_of_holds w options false h
  rw [hrun]
  refine ⟨rfl, ?_⟩
  intro hescape
  exact ⟨rfl, s.text, s.text_echo_of_no_escape hescape, hblank⟩

/-- The command prints the milliseconds of a value that is a duration. -/
theorem get_duration (h : w.Holds file key value) {ms : Nat}
    (hms : Duration.ofText value = .ok ms) :
    (run w (getLine options true file key)).Prints (chosenLayout options) (toString ms) := by
  obtain ⟨s, hblank, hrun⟩ := run_get_of_holds w options true h
  have hended : run w (getLine options true file key) = ⟨(s.echo (numeral ms)).text, .exit 0⟩ := by
    rw [hrun, if_pos rfl, printDuration, hms]
    rfl
  rw [hended]
  exact ⟨rfl, s.text, s.text_echo_numeral ms, hblank⟩

/-- The command leaves status 1 if it is asked for a duration and the value is none. -/
theorem status_get_of_no_duration (h : w.Holds file key value) {f : Fault}
    (hf : Duration.ofText value = .error f) :
    (run w (getLine options true file key)).ending.status = 1 := by
  obtain ⟨s, -, hrun⟩ := run_get_of_holds w options true h
  rw [hrun, if_pos rfl, printDuration, hf]
  exact status_fail s f

/-- The command leaves status 0 if the library has an answer, and else status 1. -/
theorem status_get (file key : String) :
    let status := (run w (getLine options asDuration file key)).ending.status
    (status = 0 ∧ ∃ value, w.Holds file key value ∧
        (asDuration = true → ∃ ms, Duration.ofText value = .ok ms)) ∨
      (status = 1 ∧ ∀ value, w.Holds file key value →
        asDuration = true ∧ ∀ ms, Duration.ofText value ≠ .ok ms) := by
  intro status
  by_cases hheld : ∃ value, w.Holds file key value
  · obtain ⟨value, hvalue⟩ := hheld
    cases asDuration with
    | false =>
      have hended := (get_value w options hvalue).1
      exact .inl ⟨congrArg Ending.status hended, value, hvalue, fun h => nomatch h⟩
    | true =>
      cases hms : Duration.ofText value with
      | ok ms =>
        have hended := (get_duration w options hvalue hms).ending
        exact .inl ⟨congrArg Ending.status hended, value, hvalue, fun _ => ⟨ms, hms⟩⟩
      | error f =>
        refine .inr ⟨status_get_of_no_duration w options hvalue hms, ?_⟩
        intro value' hvalue'
        rw [hvalue'.unique hvalue, hms]
        exact ⟨rfl, fun ms h => nomatch h⟩
  · refine .inr ⟨status_get_of_not_holds w options asDuration fun value h => hheld ⟨value, h⟩, ?_⟩
    intro value hvalue
    exact absurd ⟨value, hvalue⟩ hheld

end

/-- **The command answers as the library does.**  It leaves status 0 if the file can be loaded and
gives the key a value, which is a duration if one is asked for, and in every other case status 1.
It prints the value, as long as no control sequence can start in it, or the milliseconds of the
duration. -/
theorem get_as_library (w : World) (options : List GlobalOption) (asDuration : Bool)
    (file key : String) :
    let t := run w (getLine options asDuration file key)
    (t.ending.status = 0 ↔ ∃ value, w.Holds file key value ∧
        (asDuration = true → ∃ ms, Duration.ofText value = .ok ms)) ∧
      (t.ending.status ≠ 0 → t.ending.status = 1) ∧
      (∀ value, w.Holds file key value → asDuration = false → '\x1b' ∉ value.toList →
        t.Prints (chosenLayout options) value) ∧
      ∀ value ms, w.Holds file key value → asDuration = true → Duration.ofText value = .ok ms →
        t.Prints (chosenLayout options) (toString ms) := by
  intro t
  have hstatus := status_get w options asDuration file key
  refine ⟨⟨?_, ?_⟩, ?_, ?_, ?_⟩
  · intro hzero
    rcases hstatus with ⟨-, hlibrary⟩ | ⟨hone, -⟩
    · exact hlibrary
    · exact absurd (hzero.symm.trans hone) (by decide)
  · rintro ⟨value, hvalue, hduration⟩
    rcases hstatus with ⟨hzero, -⟩ | ⟨-, hnone⟩
    · exact hzero
    · obtain ⟨hasked, hno⟩ := hnone value hvalue
      obtain ⟨ms, hms⟩ := hduration hasked
      exact absurd hms (hno ms)
  · intro hnonzero
    rcases hstatus with ⟨hzero, -⟩ | ⟨hone, -⟩
    · exact absurd hzero hnonzero
    · exact hone
  · rintro value hvalue rfl hescape
    exact (get_value w options hvalue).2 hescape
  · rintro value ms hvalue rfl hms
    exact get_duration w options hvalue hms

/-- Milliseconds are printed alone in the layout of JSON objects, although everything is logged. -/
theorem get_of_minutes :
    let w : World := ⟨fun _ => some "k=2min".toUTF8.data.toList, ⟨.root, []⟩,
      [("TYPEDCONF_VERBOSE", "1")], "[00:00:00]"⟩
    run w ["-v", "--log-format=JSON", "get", "--duration", "--", "/settings", "k"]
      = ⟨"120000\n", .exit 0⟩ := by
  intro w
  have hparse : Properties.parse "k=2min".toList = [(1, .binding "k" (some "2min"))] := by
    have hstart : "k=2min".toList.dropWhile Text.isBlank = "k=2min".toList := rfl
    have hread : Properties.readStatement "k=2min".toList = (.binding "k" (some "2min"), []) := rfl
    obtain ⟨n, hn⟩ := Properties.statements_of_read (n := 1) hstart (by decide) hread
    exact hn.trans (congrArg _ (Properties.statements_of_blank rfl))
  have hplace : Properties.locate w.here w.here (.ofString "/settings")
      = .ok (.ofString "/settings") := Properties.locate_of_isAbsolute (by decide)
  have hfile : w.files (.ofString "/settings") = some (Text.Utf8.encode "k=2min".toList) := by
    decide
  have hload := Properties.load_of_text hfile (by rw [hparse]; decide)
  have hprops : w.properties "/settings"
      = .ok (Properties.properties ((Properties.parse "k=2min".toList).map Prod.snd)) := by
    rw [World.properties, hplace, Except.bind, hload]
  have hholds : w.Holds "/settings" "k" "2min" := by
    refine ⟨_, hprops, ?_⟩
    rw [hparse]
    rfl
  have hms : Duration.ofText "2min" = .ok 120000 := by
    have hliteral : Duration.ofText "2min" = Duration.ofLiteral "2min" 2 "min".toList := rfl
    rw [hliteral]
    rfl
  obtain ⟨-, -, -, hprints⟩ := get_as_library w
    [.verbose true, .layout ⟨"JSON", .json, by decide⟩ true] true "/settings" "k"
  obtain ⟨hending, before, htext, hbefore⟩ := hprints "2min" 120000 hholds rfl hms
  rw [hbefore (by decide)] at htext
  exact congrArg₂ Transcript.mk htext hending

end Settings.Cli
