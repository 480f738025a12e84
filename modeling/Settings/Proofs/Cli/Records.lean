import Settings.Proofs.Cli.Getting
import Settings.Proofs.Store.Warnings
import Settings.Proofs.Terminal.Lines

/-!
# Log records before a value

In the standard layout log records go to the screen, before the value that is asked for.  Of
what opening a file logs, a run that is not verbose shows only the warnings about statements that
cannot be read: everything else is for debugging, since without tables no key is deprecated.  So
the output is just the value if and only if every statement of the file can be read.

## Main definitions

* `badLines` — the lines at which bad statements of a text start.
* `badRecords` — the log records of the warnings about them.

## Main results

* `Screen.text_log_badStatements` — what warnings about bad statements add to the screen.
* `text_opened` — of what opening a file logs, only they are shown.
* `get_shows_warnings` — **a value stands on the screen after the warnings about bad statements,
  and alone if and only if there are none.**
-/

namespace Settings

/-! ### What making a store logs -/

/-- The index logs nothing but that it has been built. -/
theorem Index.level_of_mem_force (i : Index) (t : Tables) :
    ∀ e ∈ (i.force t).2, e.level = .debug := by
  unfold force
  split
  · exact fun e he => absurd he List.not_mem_nil
  · rintro e (_ | ⟨-, ⟨⟩⟩)
    rfl

namespace Store

theorem level_of_mem_note (s : Store) (key : String) :
    ∀ e ∈ (s.note key).2, e.level = .debug ∨ e.level = .warning := by
  intro e he
  have hevents : (s.note key).2 = (s.index.note s.tables key).2.2 := rfl
  rw [hevents, Index.events_note, List.mem_append] at he
  rcases he with he | he
  · exact .inl (Index.level_of_mem_force _ _ e he)
  · obtain ⟨warning, -, rfl⟩ := Option.map_eq_some_iff.1 (Option.mem_toList.1 he)
    exact .inr rfl

theorem level_of_mem_writeAll (s : Store) (ps : List (String × String)) :
    ∀ e ∈ (s.writeAll ps).2, e.level = .debug ∨ e.level = .warning := by
  induction ps generalizing s with
  | nil => exact fun e he => absurd he List.not_mem_nil
  | cons p ps ih =>
    intro e he
    rcases List.mem_append.1 he with he | he
    · exact level_of_mem_note s p.1 e he
    · exact ih _ e he

/-- Without tables there is nothing to warn about when a store is made. -/
theorem level_of_mem_create (ps : List (Value × Value)) :
    ∀ e ∈ (create ⟨.empty, .empty⟩ (some ps)).2, e.level = .debug := by
  have hwarnings : warningTexts (create ⟨.empty, .empty⟩ (some ps)).2 = [] := by
    rw [(reports_create ⟨.empty, .empty⟩ (some ps)).warned]
    exact List.filterMap_eq_nil_iff.2 fun key _ => rfl
  rw [warningTexts, List.map_eq_nil_iff, List.filter_eq_nil_iff] at hwarnings
  -- making a store logs nothing but warnings and what is for debugging
  intro e he
  have hlevel : e.level = .debug ∨ e.level = .warning := by
    rcases List.mem_append.1 he with hwrite | hseeded
    · exact level_of_mem_writeAll _ _ e hwrite
    · rw [List.mem_singleton.1 hseeded]
      exact .inl rfl
  exact hlevel.resolve_right fun hwarning => hwarnings e he (decide_eq_true hwarning)

end Store

namespace Cli

open Terminal Number Properties Text

/-! ### Bad statements -/

/-- The lines at which bad statements of a text start. -/
def badLines (text : List Char) : List Nat :=
  (parse text).filterMap fun p => if p.2 = .bad then some p.1 else none

theorem warnings_eq_badLines (text : List Char) :
    warnings (parse text) = (badLines text).map .badStatement := by
  rw [warnings, badLines, List.map_filterMap]
  refine List.filterMap_congr fun p _ => ?_
  split <;> rfl

theorem badLines_eq_nil_iff {text : List Char} :
    badLines text = [] ↔ ∀ p ∈ parse text, p.2 ≠ .bad := by
  rw [badLines, List.filterMap_eq_nil_iff]
  refine forall₂_congr fun p _ => ?_
  by_cases hp : p.2 = .bad <;> simp [hp]

/-- The log record of the warning about the bad statement at a line, after what stands in the
place of the time. -/
def badRecord (lead : String) (line : Nat) : String :=
  lead ++ " WARNING  python-dotenv could not parse statement starting at line "
    ++ toString line ++ "\n"

/-- The log records of the warnings about the bad statements at some lines.  The first record of
a run carries the time, and the others stand under it. -/
def badRecords (stamp : String) : (stamped : Bool) → List Nat → String
  | _, [] => ""
  | stamped, line :: more =>
    badRecord (if stamped then String.ofList (Screen.spaces stamp.length) else stamp) line
      ++ badRecords stamp true more

/-! ### Records on the screen -/

namespace Screen

variable {m : Mode}

/-- The wording of the warning about a bad statement. -/
theorem toList_message_badStatement (line : Nat) :
    (Event.badStatement line).message.toList
      = "python-dotenv could not parse statement starting at line ".toList ++ decimal line := by
  have hnumeral : (numeral line).toList = decimal line := String.toList_ofList
  rw [← hnumeral, ← String.toList_append]
  rfl

/-- The warning about a bad statement is one line. -/
theorem recordLines_badStatement (stamped : Bool) (line : Nat) :
    recordLines m stamped (.badStatement line)
      = [margin m stamped .warning ++ (Event.badStatement line).message.toList] := by
  have hwords : ∀ c ∈ "python-dotenv could not parse statement starting at line ".toList,
      isKept c = true ∧ c ≠ '\n' := by simp [isKept, isDropped]
  have hkept : ∀ c ∈ (Event.badStatement line).message.toList, isKept c = true ∧ c ≠ '\n' := by
    intro c hc
    rw [toList_message_badStatement, List.mem_append] at hc
    rcases hc with hc | hc
    · exact hwords c hc
    · have hdigit := isAsciiDigit_of_mem_decimal line c hc
      simp only [isAsciiDigit, Bool.and_eq_true, decide_eq_true_eq] at hdigit
      have hprintable : 0x20 ≤ c.toNat := Nat.le_trans (by decide) hdigit.1
      exact ⟨isKept_of_le hprintable, ne_of_toNat_lt hprintable (by decide)⟩
  rw [recordLines, lines_tidy hkept]
  rfl

/-- What stands before the message of a warning. -/
theorem margin_warning (stamped : Bool) :
    margin m stamped .warning
      = (if stamped then String.ofList (spaces m.stamp.length) else m.stamp).toList
        ++ " WARNING  ".toList := by
  rw [margin, apply_ite String.toList, String.toList_ofList]
  simp only [List.cons_append, List.append_assoc]
  rfl

/-- What the warning about a bad statement adds to the screen. -/
theorem logEvent_badStatement (s : Screen) {line : Nat} (h : m.shows (.badStatement line) = true) :
    s.logEvent m (.badStatement line)
      = ⟨s.text ++ badRecord (if s.stamped then String.ofList (spaces m.stamp.length) else m.stamp)
          line, true⟩ := by
  have hnumeral : numeral line = toString line := numeralInt_eq_toString line
  have hdigits : decimal line = (toString line).toList := by
    rw [← hnumeral]
    exact String.toList_ofList.symm
  have hwords : " WARNING  python-dotenv could not parse statement starting at line ".toList
      = " WARNING  ".toList
        ++ "python-dotenv could not parse statement starting at line ".toList := by
    rw [← String.toList_append]
    rfl
  rw [logEvent, if_pos h, recordLines_badStatement, toList_message_badStatement, hdigits,
    margin_warning]
  show (⟨s.text ++ String.ofList _ ++ "\n", true⟩ : Screen) = _
  congr 1
  rw [badRecord, ← String.toList_inj]
  simp only [String.toList_append, String.toList_ofList, List.append_assoc, hwords]

/-- **What warnings about bad statements add to the screen.** -/
theorem text_log_badStatements (hm : ∀ line, m.shows (.badStatement line) = true) (s : Screen)
    (lines : List Nat) :
    (s.log m (lines.map .badStatement)).text = s.text ++ badRecords m.stamp s.stamped lines := by
  -- the first warning may stamp the screen, so the screen is general
  induction lines generalizing s with
  | nil => exact (String.append_empty).symm
  | cons line more ih =>
    have hcons : s.log m ((line :: more).map .badStatement)
        = (s.logEvent m (.badStatement line)).log m (more.map .badStatement) := rfl
    rw [hcons, logEvent_badStatement s (hm line), ih, badRecords, String.append_assoc]

end Screen

/-! ### Opening a file -/

section

variable {w : World} {file key value : String} {place : Path} {text : List Char}

theorem holds_of_text (hplace : locate w.here w.here (.ofString file) = .ok place)
    (hfile : w.files place = some (Utf8.encode text))
    (hfind : (properties ((parse text).map Prod.snd)).find? key = some value) :
    w.Holds file key value := ⟨_, World.properties_of_text hplace hfile, hfind⟩

/-- Of what opening a file logs, only the warnings about bad statements are shown. -/
theorem text_opened (hquiet : w.isVerbose = false)
    (hplace : locate w.here w.here (.ofString file) = .ok place)
    (hfile : w.files place = some (Utf8.encode text)) :
    (w.opened [] file).text = badRecords w.stamp false (badLines text) := by
  have hmode : (w.mode []).verbose = false := hquiet
  have hshown : ∀ line, (w.mode []).shows (.badStatement line) = true := by
    intro line
    rw [Mode.shows, Mode.level, hmode]
    rfl
  have hopen := Store.ofFile_of_load hplace (load_of_encode hfile) ⟨.empty, .empty⟩
  have hbefore : ∀ e ∈ [Event.loading place], (w.mode []).shows e = false := by
    rintro e (_ | ⟨-, ⟨⟩⟩)
    exact not_shows_of_debug hmode rfl
  have hafter : ∀ e ∈ [Event.loaded (properties ((parse text).map Prod.snd)).size place]
      ++ (Store.create ⟨.empty, .empty⟩
        (some (Store.valuePairs (properties ((parse text).map Prod.snd))))).2,
      (w.mode []).shows e = false := by
    intro e he
    refine not_shows_of_debug hmode ?_
    rcases List.mem_append.1 he with he | he
    · rw [List.mem_singleton.1 he]
      rfl
    · exact Store.level_of_mem_create _ e he
  rw [World.opened, openStore, hopen, warnings_eq_badLines, List.append_assoc, List.cons_append,
    ← List.singleton_append, Screen.log_append, Screen.log_append,
    Screen.log_of_not_shown hbefore, Screen.log_of_not_shown hafter,
    Screen.text_log_badStatements hshown]
  exact String.empty_append

/-- No log record is empty. -/
theorem badRecords_eq_empty_iff (stamp : String) (stamped : Bool) {lines : List Nat} :
    badRecords stamp stamped lines = "" ↔ lines = [] := by
  cases lines with
  | nil => exact iff_of_true rfl rfl
  | cons line more =>
    refine iff_of_false (fun h => ?_) (List.cons_ne_nil line more)
    have hrecord := (String.append_eq_empty_iff.1 h).1
    exact absurd (String.append_eq_empty_iff.1 hrecord).2 (by decide)

/-- A value stands on the screen after the warnings about bad statements. -/
theorem run_get_quiet (hquiet : w.env.lookup verboseVariable = none)
    (hplace : locate w.here w.here (.ofString file) = .ok place)
    (hfile : w.files place = some (Utf8.encode text)) (hvalue : w.Holds file key value)
    (hescape : '\x1b' ∉ value.toList) :
    run w ["get", "--", file, key]
      = ⟨badRecords w.stamp false (badLines text) ++ value ++ "\n", .exit 0⟩ := by
  have hverbose : w.isVerbose = false := by rw [World.isVerbose, hquiet]
  have hrun : run w ["get", "--", file, key] = ⟨((w.opened [] file).echo value).text, .exit 0⟩ :=
    run_get_of_found w [] false hvalue
  rw [hrun, Screen.text_echo_of_no_escape _ hescape, text_opened hverbose hplace hfile]

/-- **A value stands on the screen after the warnings about bad statements, and alone if and only
if there are none**: for every file that can be loaded, bad statements or not, and every value
without the character that control sequences start with. -/
theorem get_shows_warnings (hquiet : w.env.lookup verboseVariable = none)
    (hplace : locate w.here w.here (.ofString file) = .ok place)
    (hfile : w.files place = some (Utf8.encode text)) (hvalue : w.Holds file key value)
    (hescape : '\x1b' ∉ value.toList) :
    run w ["get", "--", file, key]
        = ⟨badRecords w.stamp false (badLines text) ++ value ++ "\n", .exit 0⟩ ∧
      ((run w ["get", "--", file, key]).text = value ++ "\n" ↔ ∀ p ∈ parse text, p.2 ≠ .bad) := by
  have hrun := run_get_quiet hquiet hplace hfile hvalue hescape
  refine ⟨hrun, ?_⟩
  rw [hrun, ← badLines_eq_nil_iff, ← badRecords_eq_empty_iff w.stamp false,
    String.append_assoc]
  exact ⟨fun h => String.append_left_inj _ |>.1 (h.trans String.empty_append.symm),
    fun h => by rw [h, String.empty_append]⟩

end

/-- Two bad statements, one before the value and one after it. -/
theorem get_shows_warnings_of_two :
    let w : World := ⟨fun _ => some (Utf8.encode "=1\nk='a b'\n=\n".toList), ⟨.root, ["work"]⟩,
      [], "[00:00:00]"⟩
    run w ["get", "--", "f", "k"]
      = ⟨"[00:00:00] WARNING  python-dotenv could not parse statement starting at line 1\n"
          ++ "           WARNING  python-dotenv could not parse statement starting at line 3\n"
          ++ "a b" ++ "\n", .exit 0⟩ := by
  intro w
  have hplace : locate w.here w.here (.ofString "f") = .ok ⟨.root, ["work", "f"]⟩ := rfl
  have hfile : w.files ⟨.root, ["work", "f"]⟩
      = some (Utf8.encode "=1\nk='a b'\n=\n".toList) := rfl
  have hfind : (properties ((parse "=1\nk='a b'\n=\n".toList).map Prod.snd)).find? "k"
      = some "a b" := by cbv
  have hlines : badLines "=1\nk='a b'\n=\n".toList = [1, 3] := by cbv
  obtain ⟨hrun, -⟩ := get_shows_warnings rfl hplace hfile (holds_of_text hplace hfile hfind)
    (by decide)
  have hrecords : badRecords "[00:00:00]" false [1, 3]
      = "[00:00:00] WARNING  python-dotenv could not parse statement starting at line 1\n"
        ++ "           WARNING  python-dotenv could not parse statement starting at line 3\n" := by
    rfl
  rw [hrun, hlines, hrecords]

/-- A bad statement before the line with the key: the value does not stand alone. -/
theorem value_not_alone :
    let w : World := ⟨fun _ => some (Utf8.encode "=\nk=v\n".toList), ⟨.root, ["work"]⟩, [],
      "[00:00:00]"⟩
    w.env.lookup verboseVariable = none ∧ w.Holds "f" "k" "v" ∧
      run w ["get", "--", "f", "k"]
        = ⟨"[00:00:00] WARNING  python-dotenv could not parse statement starting at line 1\n"
            ++ "v" ++ "\n", .exit 0⟩ := by
  intro w
  have hplace : locate w.here w.here (.ofString "f") = .ok ⟨.root, ["work", "f"]⟩ := rfl
  have hfile : w.files ⟨.root, ["work", "f"]⟩ = some (Utf8.encode "=\nk=v\n".toList) := rfl
  have hfind : (properties ((parse "=\nk=v\n".toList).map Prod.snd)).find? "k" = some "v" := by
    cbv
  have hlines : badLines "=\nk=v\n".toList = [1] := by cbv
  have hholds := holds_of_text hplace hfile hfind
  refine ⟨rfl, hholds, ?_⟩
  rw [run_get_quiet rfl hplace hfile hholds (by decide), hlines]
  rfl

end Cli

end Settings
