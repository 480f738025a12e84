import Settings.Cli.Run
import Settings.Proofs.Number.Numeral

/-!
# How runs end, and what they show

A run that reports trouble ends with status 1, by whichever way the report goes: the command may
report the trouble itself, or leave it to the end of the run, and either report may break the
rules of markup, so that the run breaks off.  A value stands on the screen as it is, after the
log records; in layouts other than the standard one there are none.

## Main definitions

* `Ending.status` — the status that a run leaves.

## Main results

* `status_finish`, `status_fail` — trouble leaves status 1.
* `Screen.text_echo_of_no_escape` — a value as it is on the screen.
* `Screen.log_of_not_shown` — events that are not shown leave the screen as it is.
* `Screen.log_of_layout_ne` — so do all events in other layouts.
-/

namespace Settings.Cli

open Terminal Number

/-! ### Status -/

/-- The status that a run leaves: its exit code, or 1 if it breaks off. -/
def Ending.status : Ending → Nat
  | .exit code => code
  | .broken _ => 1

theorem status_report (s : Screen) (t : Trouble) : (report s t 1).ending.status = 1 := by
  unfold report
  split <;> rfl

/-- A command that ends with a message about trouble leaves status 1, even if the message breaks
the rules of markup and has to be reported itself. -/
theorem status_finish (s : Screen) (message : String) :
    (conclude (finish s message 1).1 (finish s message 1).2).ending.status = 1 := by
  unfold finish
  cases s.print message with
  | ok s' => rfl
  | error f => exact status_report s (.other f.message)

/-- A command that ends with a fault leaves status 1, whether it reports the fault itself or not. -/
theorem status_fail (s : Screen) (f : Fault) :
    (conclude (fail s f).1 (fail s f).2).ending.status = 1 := by
  unfold fail
  cases f.configError? with
  | some e => exact status_finish s (configurationMessage e.text)
  | none => exact status_report s (.ofFault f)

/-! ### What is shown -/

/-- A text without the character that control sequences start with has none of them. -/
theorem dropSequences_eq_self {cs : List Char} (h : '\x1b' ∉ cs) : dropSequences cs = cs := by
  fun_induction dropSequences cs with
  | case1 => exact absurd List.mem_cons_self h
  | case2 => exact absurd List.mem_cons_self h
  | case3 c rest _ ih => rw [ih fun hmem => h (List.mem_cons_of_mem c hmem)]
  | case4 => rfl

theorem no_escape_decimal (n : Nat) : '\x1b' ∉ decimal n := fun h =>
  absurd (isAsciiDigit_of_mem_decimal n '\x1b' h) (by decide)

/-- A run that is not verbose does not show what is for debugging. -/
theorem not_shows_of_debug {m : Mode} (hm : m.verbose = false) {e : Event}
    (he : e.level = .debug) : m.shows e = false := by
  rw [Mode.shows, Mode.level, hm, he]
  exact Bool.and_false _

namespace Screen

theorem text_echo_of_no_escape (s : Screen) {value : String} (h : '\x1b' ∉ value.toList) :
    (s.echo value).text = s.text ++ value ++ "\n" := by
  rw [echo, dropSequences_eq_self h, addLine, String.ofList_toList]

theorem text_echo_numeral (s : Screen) (n : Nat) :
    (s.echo (numeral n)).text = s.text ++ toString n ++ "\n" := by
  have hnumeral : numeral n = toString n := numeralInt_eq_toString n
  have hlist : (numeral n).toList = decimal n := String.toList_ofList
  rw [text_echo_of_no_escape s (hlist ▸ no_escape_decimal n), hnumeral]

theorem log_append (m : Mode) (s : Screen) (events more : List Event) :
    s.log m (events ++ more) = (s.log m events).log m more := List.foldl_append

/-- Events that are not shown leave the screen as it is. -/
theorem log_of_not_shown {m : Mode} {events : List Event} (h : ∀ e ∈ events, m.shows e = false)
    (s : Screen) : s.log m events = s := by
  induction events generalizing s with
  | nil => rfl
  | cons e events ih =>
    rw [List.forall_mem_cons] at h
    have hevent : s.logEvent m e = s := by
      rw [logEvent, h.1, if_neg Bool.false_ne_true]
    rw [log, List.foldl_cons, hevent]
    exact ih h.2 s

/-- In a layout other than the standard one, log records do not go to the screen. -/
theorem log_of_layout_ne {m : Mode} (h : m.layout ≠ .standard) (s : Screen)
    (events : List Event) : s.log m events = s :=
  log_of_not_shown (fun e _ => by rw [Mode.shows, beq_eq_false_iff_ne.2 h, Bool.false_and]) s

end Screen

end Settings.Cli
