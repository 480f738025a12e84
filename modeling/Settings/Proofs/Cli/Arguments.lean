import Settings.Cli.Arguments

/-!
# Command lines that are read as they are meant

The options before a command may come in any number and order: a run is verbose if one of them
says so, and its layout is the one that was named last.  The word that names a layout stands in
the next argument or after an equals sign.  The induction on the options carries what has been
read so far, whatever stands behind them.

## Main definitions

* `LayoutWord`, `GlobalOption` — the options before a command, each with a meaning.
* `isVerbose`, `chosenLayout` — what all of them say.

## Main results

* `readGlobals_options` — options are read one after the other.
* `ofArguments?_options` — what a command line with options before its command asks for.
-/

namespace Settings.Cli

/-! ### Options before a command -/

/-- A word that names a layout. -/
structure LayoutWord where
  /-- The word. -/
  word : String
  /-- The layout. -/
  layout : Log.Layout
  /-- The word names the layout. -/
  names : layoutOf? word = some layout

/-- An option before a command. -/
inductive GlobalOption where
  /-- Log everything; by the long form or the letter. -/
  | verbose (isLetter : Bool)
  /-- Log in a layout, whose word stands after an equals sign or in an argument of its own. -/
  | layout (w : LayoutWord) (isJoined : Bool)

namespace GlobalOption

/-- The arguments that an option is written as. -/
def arguments : GlobalOption → List String
  | .verbose false => ["--verbose"]
  | .verbose true => ["-v"]
  | .layout w false => [layoutOption, w.word]
  | .layout w true => [layoutOption ++ "=" ++ w.word]

/-- What has been read after one more option. -/
def read (g : Globals) : GlobalOption → Globals
  | .verbose _ => { g with flags := g.flags ++ [.verbose] }
  | .layout w _ => { g with layout := some w.word }

/-- The option asks to log everything. -/
def isVerbose : GlobalOption → Bool
  | .verbose _ => true
  | .layout .. => false

/-- The layout after one more option. -/
def layoutAfter (l : Log.Layout) : GlobalOption → Log.Layout
  | .verbose _ => l
  | .layout w _ => w.layout

end GlobalOption

/-- One of the options asks to log everything. -/
def isVerbose (options : List GlobalOption) : Bool := options.any (·.isVerbose)

/-- The layout that is named last, or else the standard one. -/
def chosenLayout (options : List GlobalOption) : Log.Layout :=
  options.foldl GlobalOption.layoutAfter .standard

/-! ### Reading options -/

theorem layoutValue?_joined (word : String) :
    layoutValue? (layoutOption ++ "=" ++ word) = some word := by
  have hlist : (layoutOption ++ "=" ++ word).toList
      = (layoutOption ++ "=").toList ++ word.toList := String.toList_append
  have hprefix : (layoutOption ++ "=").toList.isPrefixOf (layoutOption ++ "=" ++ word).toList
      = true := by
    rw [hlist, List.isPrefixOf_iff_prefix]
    exact List.prefix_append _ _
  rw [layoutValue?, if_pos hprefix, hlist, List.drop_left, String.ofList_toList]

/-- An argument that holds an option of its own is read, whatever stands behind it. -/
theorem readGlobals_of_isOption (g : Globals) {arg : String} (hdashes : arg ≠ "--")
    (hname : arg ≠ layoutOption) (hoption : isOption arg = true) (rest : List String) :
    readGlobals g (arg :: rest)
      = match layoutValue? arg, flagsOf? [.verbose, .help] arg with
        | some word, _ => readGlobals { g with layout := some word } rest
        | none, some flags => readGlobals { g with flags := g.flags ++ flags } rest
        | none, none => none := by
  rw [readGlobals.eq_def]
  exact (if_neg hdashes).trans ((if_neg hname).trans (if_pos hoption))

/-- What has been read when an operand is reached. -/
theorem readGlobals_of_operand (g : Globals) {name : String} (hdashes : name ≠ "--")
    (hlayout : name ≠ layoutOption) (hname : isOption name = false) (rest : List String) :
    readGlobals g (name :: rest) = some { g with rest := name :: rest } := by
  rw [readGlobals.eq_def]
  dsimp only
  rw [if_neg hdashes, if_neg hlayout, hname, if_neg Bool.false_ne_true]

/-- An option is read, whatever stands behind it. -/
theorem readGlobals_arguments (g : Globals) (o : GlobalOption) (rest : List String) :
    readGlobals g (o.arguments ++ rest) = readGlobals (o.read g) rest := by
  match o with
  | .verbose false => exact readGlobals_of_isOption g (by decide) (by decide) rfl rest
  | .verbose true => exact readGlobals_of_isOption g (by decide) (by decide) rfl rest
  | .layout w false => rfl
  | .layout w true =>
    have hlist : (layoutOption ++ "=" ++ w.word).toList
        = '-' :: '-' :: 'l' :: ("og-format=".toList ++ w.word.toList) := String.toList_append
    have hdashes : layoutOption ++ "=" ++ w.word ≠ "--" := by
      intro h
      rw [← String.toList_inj, hlist] at h
      simp at h
    -- the option without a word ends where the equals sign stands
    have hname : layoutOption ++ "=" ++ w.word ≠ layoutOption := by
      intro h
      have hlength := congrArg String.length h
      simp only [String.length_append] at hlength
      have : "=".length = 1 := rfl
      omega
    have hoption : isOption (layoutOption ++ "=" ++ w.word) = true := by
      simp only [isOption, hlist]
    have hread := readGlobals_of_isOption g hdashes hname hoption rest
    rw [layoutValue?_joined] at hread
    exact hread

/-- **Options are read one after the other**, whatever stands behind them. -/
theorem readGlobals_options (g : Globals) (options : List GlobalOption) (rest : List String) :
    readGlobals g (options.flatMap GlobalOption.arguments ++ rest)
      = readGlobals (options.foldl GlobalOption.read g) rest := by
  induction options generalizing g with
  | nil => rfl
  | cons o options ih =>
    rw [List.flatMap_cons, List.append_assoc, readGlobals_arguments, ih, List.foldl_cons]

/-! ### What options say -/

theorem contains_flags_read (g : Globals) (options : List GlobalOption) :
    (options.foldl GlobalOption.read g).flags.contains .verbose
        = (g.flags.contains .verbose || isVerbose options) ∧
      (options.foldl GlobalOption.read g).flags.contains .help = g.flags.contains .help := by
  induction options generalizing g with
  | nil => simp [isVerbose]
  | cons o options ih =>
    obtain ⟨hverbose, hhelp⟩ := ih (o.read g)
    rw [List.foldl_cons, hverbose, hhelp]
    cases o with
    | verbose _ => simp [GlobalOption.read, isVerbose, GlobalOption.isVerbose]
    | layout w _ => simp [GlobalOption.read, isVerbose, GlobalOption.isVerbose]

/-- The layout of what has been read: the standard one, if no word has been. -/
def Globals.layout? (g : Globals) : Option Log.Layout :=
  match g.layout with
  | none => some .standard
  | some word => layoutOf? word

theorem layout?_read {g : Globals} {l : Log.Layout} (hg : g.layout? = some l)
    (options : List GlobalOption) :
    (options.foldl GlobalOption.read g).layout?
      = some (options.foldl GlobalOption.layoutAfter l) := by
  induction options generalizing g l with
  | nil => exact hg
  | cons o options ih =>
    cases o with
    | verbose _ => exact ih hg
    -- a word takes the place of the one before
    | layout w _ => exact ih w.names

/-- **What a command line asks for**: the options before the command say whether to log
everything and in which layout, and the command is read by its own rules. -/
theorem ofArguments?_options (options : List GlobalOption) {name : String}
    (hdashes : name ≠ "--") (hlayout : name ≠ layoutOption) (hname : isOption name = false)
    (rest : List String) :
    Invocation.ofArguments? (options.flatMap GlobalOption.arguments ++ name :: rest)
      = (commandOf? name rest).map fun c => ⟨isVerbose options, chosenLayout options, c⟩ := by
  obtain ⟨hverbose, hhelp⟩ := contains_flags_read ⟨[], none, []⟩ options
  have hchosen : (options.foldl GlobalOption.read ⟨[], none, []⟩).layout?
      = some (chosenLayout options) := layout?_read rfl options
  rw [Invocation.ofArguments?, readGlobals_options, readGlobals_of_operand _ hdashes hlayout hname]
  generalize options.foldl GlobalOption.read ⟨[], none, []⟩ = g at *
  simp only [Option.bind_eq_bind, Option.bind_some, hhelp, hverbose, List.contains_nil,
    Bool.false_or, Bool.false_eq_true, if_false]
  unfold Globals.layout? at hchosen
  cases hg : g.layout with
  | none =>
    rw [hg] at hchosen
    rw [← Option.some.inj hchosen]
    cases commandOf? name rest <;> rfl
  | some word =>
    rw [hg] at hchosen
    simp only [hchosen]
    cases commandOf? name rest <;> rfl

end Settings.Cli
