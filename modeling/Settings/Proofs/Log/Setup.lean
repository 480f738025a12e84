import Mathlib
import Settings.Log.Root

/-!
# Setting logging up again

Logging can be set up any number of times, over whatever handlers the root logger has.  Each time
the handlers from before are dropped, so that in the end there are those of the last set-up only,
and a record is written as its options ask: one line in their layout on the console and one in the
log file, as far as they are wanted, and nothing anywhere else.

There is one exception.  Without console and without log file the root logger has no handlers at
all, and the last resort shows warnings on the console that was switched off.

Two handlers of different set-ups may be alike.  To tell them apart, each carries the number of
its set-up here; a handler that was there at the start may be of any kind.  What is followed are
writes, each a line that a handler puts out: a log file that has reached its size is put aside
before, which moves older lines and writes none.

## Main definitions

* `Attached` — a handler with the set-up that it comes from.
* `Logger.setUpAll` — one set-up after the other.
* `Options.lines`, `Options.Heeded` — how the options ask for a record to be written.
* `Options.Leaks` — the last resort shows a record although the console is off.

## Main results

* `Logger.exists_last`, `Logger.configure_eq_ok_iff` — the last set-up alone makes the handlers.
* `Logger.emit_placed` — a record is written once for each handler.
* `Options.heeded_places` — that is what the options ask for.
* `Logger.heeded_iff` — **records are written as the last options ask, unless they leak.**
-/

namespace Settings.Log

/-! ### Set-ups and their handlers -/

/-- A handler of the root logger, with where it comes from. -/
inductive Attached (β : Type) where
  /-- A handler of any kind that was there at the start. -/
  | foreign (handler : β)
  /-- A handler of a set-up, with the number of set-ups before that one. -/
  | own (turn : Nat) (handler : Handler)
  deriving DecidableEq, Repr

/-- What handlers do, given what those from the start do. -/
def Attached.receiver {β : Type} (foreign : β → Receiver) : Attached β → Receiver
  | .foreign handler => foreign handler
  | .own _ handler => handler.receiver

namespace Logger

variable {β : Type}

/-- A logger whose handlers are all from the start. -/
def fromStart (logger : Logger β) : Logger (Attached β) :=
  ⟨logger.level, logger.handlers.map .foreign⟩

/-- Sets logging up with one list of options after the other, where the first set-up has the
number `turn`; the first fault ends it. -/
def setUpAll (turn : Nat) (logger : Logger (Attached β)) :
    List Options → Except SetupFault (Logger (Attached β))
  | [] => .ok logger
  | o :: os =>
    match logger.configure (.own turn) o with
    | (.ok _, logger) => logger.setUpAll (turn + 1) os
    | (.error fault, _) => .error fault

theorem setUpAll_cons_eq_ok_iff {turn : Nat} {logger final : Logger (Attached β)} {o : Options}
    {os : List Options} :
    logger.setUpAll turn (o :: os) = .ok final ↔
      ∃ next, logger.configure (.own turn) o = (.ok (), next) ∧
        next.setUpAll (turn + 1) os = .ok final := by
  rw [setUpAll]
  split
  · next next hnext =>
    constructor
    · intro h
      exact ⟨next, hnext, h⟩
    · rintro ⟨next', hnext', h⟩
      exact (Prod.mk.inj (hnext.symm.trans hnext')).2 ▸ h
  · next hfault =>
    constructor
    · intro h
      cases h
    · rintro ⟨next, hnext, -⟩
      cases hfault.symm.trans hnext

/-- The last of several set-ups is one of its own, on a logger that the others have left. -/
theorem exists_last {turn : Nat} {logger final : Logger (Attached β)} {earlier : List Options}
    {o : Options} (h : logger.setUpAll turn (earlier ++ [o]) = .ok final) :
    ∃ before : Logger (Attached β),
      before.configure (.own (turn + earlier.length)) o = (.ok (), final) := by
  induction earlier generalizing turn logger with
  | nil =>
    obtain ⟨next, hnext, hrest⟩ := setUpAll_cons_eq_ok_iff.1 h
    exact ⟨logger, Except.ok.inj hrest ▸ hnext⟩
  | cons e earlier ih =>
    obtain ⟨next, -, hrest⟩ := setUpAll_cons_eq_ok_iff.1 h
    obtain ⟨before, hbefore⟩ := ih hrest
    -- The number of the last set-up is the same, whether it is counted from this one or the next.
    refine ⟨before, ?_⟩
    rw [List.length_cons, Nat.add_comm earlier.length, ← Nat.add_assoc]
    exact hbefore

end Logger

namespace Options

/-- What a set-up opens for the log file, if there is one. -/
inductive Opens (o : Options) : Option Target → Prop where
  /-- There is no log file. -/
  | absent (hlog : o.logFile = none) : o.Opens none
  /-- The log file can be opened. -/
  | present {path : Path} {target : Target} (hlog : o.logFile = some path)
      (htarget : o.fileTarget path = .ok target) : o.Opens (some target)

/-- A log file can be opened, or there is a fault. -/
theorem opens_or_fails (o : Options) :
    (∃ file, o.Opens file) ∨
      ∃ path fault, o.logFile = some path ∧ o.fileTarget path = .error fault := by
  cases hlog : o.logFile with
  | none => exact .inl ⟨none, .absent hlog⟩
  | some path =>
    cases htarget : o.fileTarget path with
    | error fault => exact .inr ⟨path, fault, rfl, htarget⟩
    | ok target => exact .inl ⟨some target, .present hlog htarget⟩

/-- A log file is opened at its path, whether it is replaced at a size or not. -/
theorem file?_of_fileTarget {o : Options} {path : Path} {target : Target}
    (h : o.fileTarget path = .ok target) : target.file? = some path := by
  unfold fileTarget at h
  dsimp only at h
  split at h
  · split at h
    · cases h
    · split at h
      · cases h
      · exact Except.ok.inj h ▸ rfl
  · split at h
    · cases h
    · exact Except.ok.inj h ▸ rfl

/-- The places where handlers with these options write, with the log file opened as `file`. -/
def places (o : Options) (file : Option Target) : List Target :=
  (if o.console then [.console] else []) ++ file.toList

/-- A handler with these options. -/
def handler (o : Options) (t : Target) : Handler := ⟨t, o.level, o.layout⟩

theorem consoleHandlers_append (o : Options) (file : Option Target) :
    o.consoleHandlers ++ file.toList.map o.handler = (o.places file).map o.handler := by
  rw [places, List.map_append, consoleHandlers]
  cases o.console <;> rfl

end Options

/-- A set-up whose log file can be opened leaves its own level and its own handlers only: one for
the console if it is wanted, and one for the log file if there is one. -/
theorem Logger.configure_of_opens {α : Type} (attach : Handler → α) (logger : Logger α)
    {o : Options} {file : Option Target} (hfile : o.Opens file) :
    logger.configure attach o
      = (.ok (), ⟨o.level.number, (o.places file).map fun t => attach (o.handler t)⟩) := by
  have hhandlers : ((o.places file).map fun t => attach (o.handler t))
      = o.consoleHandlers.map attach ++ (file.toList.map o.handler).map attach := by
    rw [← List.map_append, o.consoleHandlers_append, List.map_map, Function.comp_def]
  rw [hhandlers, configure]
  cases hfile with
  | absent hlog =>
    rw [hlog, Option.toList_none, List.map_nil, List.map_nil, List.append_nil]
    rfl
  | present hlog htarget =>
    rw [hlog]
    dsimp only
    rw [htarget]
    rfl

/-- A set-up succeeds if its log file can be opened, and then leaves nothing of the logger. -/
theorem Logger.configure_eq_ok_iff {α : Type} {attach : Handler → α} {logger final : Logger α}
    {o : Options} :
    logger.configure attach o = (.ok (), final) ↔
      ∃ file, o.Opens file ∧
        final = ⟨o.level.number, (o.places file).map fun t => attach (o.handler t)⟩ := by
  constructor
  · intro h
    rcases o.opens_or_fails with ⟨file, hfile⟩ | ⟨path, fault, hlog, hfault⟩
    · rw [configure_of_opens attach logger hfile] at h
      exact ⟨file, hfile, (Prod.mk.inj h).2.symm⟩
    · rw [configure, hlog] at h
      dsimp only at h
      rw [hfault] at h
      cases h
  · rintro ⟨file, hfile, rfl⟩
    exact configure_of_opens attach logger hfile

/-! ### What is written -/

namespace Options

/-- The lines in which a record is to be written: one in the layout of the options, if the record
has their level at least.  A record that has no text in that layout has no line. -/
def lines (o : Options) (r : Record) : List String :=
  if o.level.number ≤ r.level then
    match o.layout.format r with
    | .ok text => [text ++ "\n"]
    | .error _ => []
  else []

/-- A handler with these options writes the lines of a record that it takes to its place. -/
theorem write_of_le {o : Options} {r : Record} (h : o.level.number ≤ r.level) (t : Target) :
    (o.handler t).receiver.write r = (o.lines r).map (t, ·) := by
  show (o.handler t).write r = _
  rw [lines, if_pos h, Handler.write, handler]
  cases o.layout.format r <;> rfl

end Options

/-- A logger at the level of the options whose handlers are theirs writes the lines of a record
once for each of their places, if there is any. -/
theorem Logger.emit_placed {α : Type} {receiver : α → Receiver} {attach : Handler → α}
    (hattach : ∀ h, receiver (attach h) = h.receiver) (o : Options) {ts : List Target}
    (hts : ts ≠ []) (r : Record) :
    Logger.emit receiver ⟨o.level.number, ts.map fun t => attach (o.handler t)⟩ r
      = ts.flatMap fun t => (o.lines r).map (t, ·) := by
  have hreceivers : Logger.receivers receiver
      ⟨o.level.number, ts.map fun t => attach (o.handler t)⟩
      = ts.map fun t => (o.handler t).receiver := by
    rw [receivers, if_neg (by simpa using hts), List.map_map]
    exact List.map_congr_left fun t _ => hattach _
  rw [emit, reached, hreceivers]
  -- Logger and handlers have one level, so a record that gets past the logger reaches them all.
  by_cases h : o.level.number ≤ r.level
  · have htaken : ∀ h' ∈ ts.map fun t => (o.handler t).receiver,
        decide (h'.level ≤ r.level) = true := by
      intro h' hmem
      obtain ⟨t, -, rfl⟩ := List.mem_map.1 hmem
      exact decide_eq_true h
    rw [if_pos h, List.filter_eq_self.2 htaken, List.flatMap_map]
    simp only [Options.write_of_le h]
  · rw [if_neg h, Options.lines, if_neg h]
    simp

/-! ### What is asked for -/

/-- The lines that are written to a file, or to the console. -/
def linesAt (place : Option Path) (writes : List (Target × String)) : List String :=
  (writes.filter fun w => decide (w.1.file? = place)).map (·.2)

theorem linesAt_flatMap (place : Option Path) (ts : List Target) (lines : List String) :
    linesAt place (ts.flatMap fun t => lines.map (t, ·))
      = ts.flatMap fun t => if t.file? = place then lines else [] := by
  induction ts with
  | nil => rfl
  | cons t ts ih =>
    rw [linesAt] at ih ⊢
    rw [List.flatMap_cons, List.filter_append, List.map_append, ih, List.flatMap_cons]
    by_cases h : t.file? = place <;> simp [List.filter_map, Function.comp_def, h]

namespace Options

/-- A record is written as the options ask: on the console if it is wanted, in the log file if
there is one, each time once and in their layout, and nowhere else. -/
structure Heeded (o : Options) (r : Record) (writes : List (Target × String)) : Prop where
  /-- The console. -/
  console : linesAt none writes = if o.console then o.lines r else []
  /-- The files. -/
  file : ∀ path, linesAt (some path) writes = if o.logFile = some path then o.lines r else []

/-- A record leaks: there is neither a console nor a log file, but the last resort shows its
message. -/
structure Leaks (o : Options) (r : Record) (message : String) : Prop where
  /-- The console is not wanted. -/
  console : o.console = false
  /-- There is no log file. -/
  file : o.logFile = none
  /-- The record has the level. -/
  level : o.level.number ≤ r.level
  /-- The last resort takes the record. -/
  warning : Level.warning.number ≤ r.level
  /-- The level has a name. -/
  named : ∃ name, r.levelName = .ok name
  /-- The message can be made. -/
  message : r.message = .ok message

theorem linesAt_places (place : Option Path) (o : Options) (file : Option Target)
    (lines : List String) :
    linesAt place ((o.places file).flatMap fun t => lines.map (t, ·))
      = (if o.console ∧ place = none then lines else []) ++
          file.toList.flatMap fun t => if t.file? = place then lines else [] := by
  rw [linesAt_flatMap, places, List.flatMap_append]
  congr 1
  cases place <;> cases o.console <;> simp

/-- Lines at the places of the options are what the options ask for. -/
theorem heeded_places {o : Options} {file : Option Target} (hfile : o.Opens file) (r : Record) :
    o.Heeded r ((o.places file).flatMap fun t => (o.lines r).map (t, ·)) := by
  cases hfile with
  | absent hlog =>
    exact ⟨by simp [linesAt_places], fun path => by simp [linesAt_places, hlog]⟩
  | present hlog htarget =>
    have hpath := file?_of_fileTarget htarget
    exact ⟨by simp [linesAt_places, hpath], fun path => by simp [linesAt_places, hlog, hpath]⟩

/-- The options have no place to write at if they want neither a console nor a log file. -/
theorem places_eq_nil_iff {o : Options} {file : Option Target} (hfile : o.Opens file) :
    o.places file = [] ↔ o.console = false ∧ o.logFile = none := by
  rw [places, List.append_eq_nil_iff]
  refine and_congr (by cases o.console <;> simp) ?_
  cases hfile with
  | absent hlog => simp [hlog]
  | present hlog => simp [hlog]

end Options

namespace Logger

variable {α : Type}

/-- A logger without handlers leaves a record to the last resort. -/
theorem emit_nil (receiver : α → Receiver) (level : Int) (r : Record) :
    emit receiver ⟨level, []⟩ r
      = if level ≤ r.level ∧ Level.warning.number ≤ r.level then writeBare r else [] := by
  rw [emit, reached]
  by_cases h : level ≤ r.level
  · by_cases h' : Level.warning.number ≤ r.level <;> simp [receivers, lastResort, h, h']
  · simp [h]

/-- A record that leaks is shown with its message only. -/
theorem emit_of_leaks (receiver : α → Receiver) {o : Options} {r : Record} {message : String}
    (h : o.Leaks r message) :
    emit receiver ⟨o.level.number, []⟩ r
      = [(.console, withException (r.exception.map Exception.shown) message ++ "\n")] := by
  obtain ⟨name, hname⟩ := h.named
  rw [emit_nil, if_pos ⟨h.level, h.warning⟩, writeBare, hname, h.message]

/-- Without handlers a record is not shown unless it leaks. -/
theorem emit_of_not_leaks (receiver : α → Receiver) {o : Options} {r : Record}
    (hconsole : o.console = false) (hlog : o.logFile = none)
    (h : ∀ message, ¬ o.Leaks r message) : emit receiver ⟨o.level.number, []⟩ r = [] := by
  rw [emit_nil]
  split
  · next hlevels =>
    rw [writeBare]
    cases hname : r.levelName with
    | error fault => rfl
    | ok name =>
      cases hmessage : r.message with
      | error fault => rfl
      | ok message =>
        exact absurd ⟨hconsole, hlog, hlevels.1, hlevels.2, ⟨name, hname⟩, hmessage⟩ (h message)
  · rfl

end Logger

/-- **Records are written as the last options ask, unless they leak.**  Whatever handlers a root
logger had, after set-ups that succeed all its handlers are those of the last one.  A record of at
least its level is written in its layout, once on the console if that is wanted and once in the
log file if there is one; other records are not written, and no other file is written to.  Only a
set-up without console and without log file does not keep to this: what has the level of a warning
as well is shown on the console, message only. -/
theorem Logger.heeded_iff {β : Type} (foreign : β → Receiver) {start : Logger β}
    {earlier : List Options} {o : Options} {final : Logger (Attached β)}
    (h : start.fromStart.setUpAll 0 (earlier ++ [o]) = .ok final) (r : Record) :
    let writes := final.emit (Attached.receiver foreign) r
    (∀ a ∈ final.handlers, ∃ handler, a = .own earlier.length handler) ∧
      (o.Heeded r writes ↔ ∀ message, ¬ o.Leaks r message) ∧
      ∀ message, o.Leaks r message →
        writes = [(.console, withException (r.exception.map Exception.shown) message ++ "\n")] := by
  intro writes
  obtain ⟨before, hlast⟩ := exists_last h
  obtain ⟨file, hfile, hfinal⟩ := configure_eq_ok_iff.1 hlast
  rw [Nat.zero_add] at hfinal
  have hwrites : writes = emit (Attached.receiver foreign)
      ⟨o.level.number, (o.places file).map fun t => .own earlier.length (o.handler t)⟩ r := by
    rw [← hfinal]
  constructor
  · intro a ha
    rw [hfinal] at ha
    obtain ⟨t, -, rfl⟩ := List.mem_map.1 ha
    exact ⟨_, rfl⟩
  -- Only without a place to write at are there no handlers, and only then can a record leak.
  by_cases hplaces : o.places file = []
  · obtain ⟨hconsole, hlog⟩ := (Options.places_eq_nil_iff hfile).1 hplaces
    rw [hplaces, List.map_nil] at hwrites
    have hleak : ∀ message, o.Leaks r message →
        writes = [(.console, withException (r.exception.map Exception.shown) message ++ "\n")] :=
      fun message hm => hwrites.trans (emit_of_leaks _ hm)
    refine ⟨⟨fun hheeded message hm => ?_, fun hnone => ?_⟩, hleak⟩
    · -- The line of the last resort is one on the console, where none is asked for.
      have hline := hheeded.console
      rw [hleak message hm, hconsole] at hline
      cases hline
    · rw [hwrites, emit_of_not_leaks _ hconsole hlog hnone]
      exact ⟨by rw [hconsole]; rfl, fun path => by rw [hlog]; rfl⟩
  · have hown (handler : Handler) :
        Attached.receiver foreign (.own earlier.length handler) = handler.receiver := rfl
    have hnone : ∀ message, ¬ o.Leaks r message := fun message hm =>
      hplaces ((Options.places_eq_nil_iff hfile).2 ⟨hm.console, hm.file⟩)
    rw [hwrites, emit_placed hown o hplaces]
    exact ⟨iff_of_true (Options.heeded_places hfile r) hnone,
      fun message hm => absurd hm (hnone message)⟩

/-- The log file of the first set-up is the one of the last again, under another name; the handlers
from before and the file in between get nothing. -/
theorem heeded_of_reopened_file :
    let work : Path := ⟨.root, ["work"]⟩
    let first : Options :=
      { level := .debug, layout := .json, directory := work, file := some "a.log" }
    let second : Options := { directory := work, file := some "b.log", console := false }
    let o : Options :=
      { level := .warning, layout := .detailed, directory := work, file := some "./b/../a.log",
        rotation := true, maxFileSize := "1KB", backups := 2 }
    let start : Logger Unit := ⟨0, [(), ()]⟩
    let foreign : Unit → Receiver := fun _ => ⟨0, fun _ => [(.console, "?")]⟩
    let r : Record :=
      ⟨"typedconf.store", 30, "Gone: %s", [.text "k"], "/x/store.py", 7, some "set", ⟨0⟩, none⟩
    let line := "1970-01-01 00:00:00,000 - typedconf.store - WARNING - store:set:7 - Gone: k\n"
    ∃ final, start.fromStart.setUpAll 0 ([first, second] ++ [o]) = .ok final ∧
      (∀ a ∈ final.handlers, ∃ handler, a = .own 2 handler) ∧
      linesAt none (final.emit (Attached.receiver foreign) r) = [line] ∧
      linesAt (some ⟨.root, ["work", "a.log"]⟩) (final.emit (Attached.receiver foreign) r) = [line] ∧
      linesAt (some ⟨.root, ["work", "b.log"]⟩) (final.emit (Attached.receiver foreign) r) = [] := by
  intro work first second o start foreign r line
  have hfloor : r.moment.seconds.floor = 0 := by decide +kernel
  have htime : o.layout.time r = .ok "1970-01-01 00:00:00,000" := by
    show r.moment.logText.mapError RecordFault.moment = _
    rw [Moment.logText, hfloor]
    cbv
  have hmessage : r.message = .ok "Gone: k" := by cbv
  have hlines : o.lines r = [line] := by
    have hname : r.levelName = .ok "WARNING" := rfl
    rw [Options.lines, if_pos (by decide), Layout.format, hname, htime, hmessage]
    cbv
  have hlog : o.logFile = some ⟨.root, ["work", "a.log"]⟩ := by decide +kernel
  have hsize : parseFileSize o.maxFileSize = .ok 1024 := by cbv
  have htarget : o.fileTarget ⟨.root, ["work", "a.log"]⟩
      = .ok (.rotating ⟨.root, ["work", "a.log"]⟩ 1024 2) := by
    rw [Options.fileTarget, if_pos rfl, hsize]
    rfl
  have hfirst : first.logFile = some ⟨.root, ["work", "a.log"]⟩ := by decide +kernel
  have hsecond : second.logFile = some ⟨.root, ["work", "b.log"]⟩ := by decide +kernel
  have hsetup : start.fromStart.setUpAll 0 ([first, second] ++ [o]) = .ok ⟨30,
      [.own 2 ⟨.console, .warning, .detailed⟩,
        .own 2 ⟨.rotating ⟨.root, ["work", "a.log"]⟩ 1024 2, .warning, .detailed⟩]⟩ := by
    refine Logger.setUpAll_cons_eq_ok_iff.2
      ⟨_, Logger.configure_eq_ok_iff.2 ⟨_, .present hfirst rfl, rfl⟩, ?_⟩
    refine Logger.setUpAll_cons_eq_ok_iff.2
      ⟨_, Logger.configure_eq_ok_iff.2 ⟨_, .present hsecond rfl, rfl⟩, ?_⟩
    exact Logger.setUpAll_cons_eq_ok_iff.2
      ⟨_, Logger.configure_eq_ok_iff.2 ⟨_, .present hlog htarget, rfl⟩, rfl⟩
  obtain ⟨hown, hheeded, -⟩ := Logger.heeded_iff foreign hsetup r
  have hasked := hheeded.2 fun message hm => absurd hm.console (by decide)
  refine ⟨_, hsetup, hown, hasked.console.trans hlines, ?_, ?_⟩
  · rw [hasked.file, if_pos hlog, hlines]
  · rw [hasked.file, if_neg (by rw [hlog]; decide)]

/-- Without console and without log file a warning is shown on the console all the same. -/
theorem warned_without_console :
    let o : Options := { console := false }
    let r : Record := ⟨"typedconf.store", 30, "Gone.", [], "store.py", 7, some "set", ⟨0⟩, none⟩
    ∃ root, Root.initial.configure o = (.ok (), root) ∧ o.console = false ∧
      root.emit r = [(.console, "Gone.\n")] ∧ ¬ o.Heeded r (root.emit r) := by
  intro o r
  refine ⟨_, rfl, rfl, rfl, fun h => ?_⟩
  exact absurd h.console (by decide)

end Settings.Log
