import Settings.Proofs.Cli.Getting
import Settings.Proofs.Properties.Locating
import Settings.Proofs.Terminal.Lines
import Settings.Proofs.Terminal.Markup

/-!
# Messages that quote what the user wrote

A message about trouble is markup: a label in a style, and after it the text that it quotes, as
it is.  So the text is shown unchanged if and only if it is plain as markup.  Else brackets and
backslashes are lost, or the message breaks the rules of markup, and then what stands on the
screen in its place is a report about that, with another label.

## Main definitions

* `Label`, `Label.message` — the labels of messages.
* `missingText` — the full text of the error about a file that is not there.

## Main results

* `Label.conclude_finish_iff` — **a run ends with the text of its message just in case it is
  plain.**
* `get_reports` — a missing key or file is reported as it was written if and only if the text of
  the report is plain.
-/

namespace Settings.Cli

open Terminal

/-! ### Labels -/

/-- A label of messages. -/
structure Label where
  /-- Its style. -/
  style : LabelStyle
  /-- Its text. -/
  text : String
  /-- It has a character. -/
  text_ne_nil : text.toList ≠ []
  /-- It stands for itself in markup. -/
  isLabel : IsLabel text.toList
  /-- It is shown as it is, in one line. -/
  kept : ∀ c ∈ text.toList, isKept c = true ∧ c ≠ '\n'

namespace Label

/-- The label of configuration errors. -/
def configuration : Label where
  style := .red
  text := "Configuration Error:"
  text_ne_nil := by simp
  isLabel := by simp [IsLabel]
  kept := by simp [isKept, isDropped]

/-- The label of keys without a value. -/
def unset : Label where
  style := .yellow
  text := "Key not set:"
  text_ne_nil := by simp
  isLabel := by simp [IsLabel]
  kept := by simp [isKept, isDropped]

/-- The label of other errors. -/
def other : Label where
  style := .red
  text := "Error:"
  text_ne_nil := by simp
  isLabel := by simp [IsLabel]
  kept := by simp [isKept, isDropped]

variable (l : Label)

/-- The message about a text. -/
def message (text : String) : String :=
  String.ofList (labelled l.style l.text.toList text.toList)

theorem toList_message (text : String) :
    (l.message text).toList = labelled l.style l.text.toList text.toList := String.toList_ofList

/-- A text after a label in its style is the message about it. -/
theorem append_eq_message {markup : String} (h : markup.toList
    = '[' :: (l.style.name ++ ']' :: (l.text.toList ++ '[' :: ('/' :: l.style.name ++ [']', ' ']))))
    (text : String) : markup ++ text = l.message text := by
  rw [message, labelled, ← String.toList_inj, String.toList_ofList, String.toList_append, h]
  simp only [List.cons_append, List.append_assoc, List.nil_append]

theorem configurationMessage_eq (text : String) :
    configurationMessage text = configuration.message text :=
  append_eq_message configuration (by cbv) text

theorem unsetMessage_eq (key : String) : unsetMessage key = unset.message key :=
  append_eq_message unset (by cbv) key

theorem message_other_eq (text : String) : (Trouble.other text).message = other.message text :=
  append_eq_message other (by cbv) text

/-! ### Printing -/

section

variable {l} {s s' : Screen} {text : String}

/-- A message that is shown is its label and what the pieces of its text show. -/
theorem exists_of_print (h : s.print (l.message text) = .ok s') :
    ∃ position, s'.text = s.text ++ String.ofList (tidy (l.text.toList ++
      ' ' :: shown (piecesFrom position 0 text.toList))) ++ "\n" := by
  rw [Screen.print, toList_message] at h
  cases ht : plainText (labelled l.style l.text.toList text.toList) with
  | error f =>
    rw [ht] at h
    cases h
  | ok t =>
    rw [ht] at h
    cases h
    obtain ⟨position, rfl⟩ := eq_of_plainText_labelled l.style l.isLabel ht
    exact ⟨position, rfl⟩

/-- A message that is shown begins as its label does. -/
theorem head?_of_print (h : s.print (l.message text) = .ok s') :
    ∃ line, s'.text = s.text ++ String.ofList line ++ "\n" ∧
      line.head? = l.text.toList.head? := by
  obtain ⟨position, hs'⟩ := exists_of_print h
  refine ⟨_, hs', ?_⟩
  cases hlabel : l.text.toList with
  | nil => exact absurd hlabel l.text_ne_nil
  | cons c cs =>
    have hc := l.kept c (hlabel ▸ List.mem_cons_self)
    rw [List.cons_append, head?_tidy hc.1 hc.2]
    rfl

/-- A label and kept characters after it stay as they are. -/
theorem tidy_label {cs : List Char} (h : ∀ c ∈ cs, isKept c = true) :
    tidy (l.text.toList ++ ' ' :: cs) = l.text.toList ++ ' ' :: cs := by
  refine tidy_eq_self fun c hc => ?_
  rcases List.mem_append.1 hc with hc | hc
  · exact (l.kept c hc).1
  · rcases List.mem_cons.1 hc with rfl | hc
    · decide
    · exact h c hc

/-- A message is shown with its text just in case that is plain. -/
theorem print_iff (htext : ∀ c ∈ text.toList, isKept c = true) :
    (∃ s', s.print (l.message text) = .ok s' ∧
      s'.text = s.text ++ (l.text ++ " " ++ text) ++ "\n") ↔ isPlain text.toList = true := by
  have hwhole : l.text ++ " " ++ text = String.ofList (l.text.toList ++ ' ' :: text.toList) := by
    rw [← String.toList_inj, String.toList_ofList, String.toList_append, String.toList_append,
      List.append_assoc]
    rfl
  rw [hwhole]
  constructor
  · rintro ⟨s', hs', hshown⟩
    obtain ⟨position, htidy⟩ := exists_of_print hs'
    have hpart : ∀ c ∈ shown (piecesFrom position 0 text.toList), isKept c = true := fun c hc =>
      htext c ((shown_sublist position 0 text.toList).subset hc)
    rw [tidy_label hpart] at htidy
    have hsame := String.append_right_inj _ |>.1 (String.append_left_inj _ |>.1
      (htidy.symm.trans hshown))
    have hrest := List.append_cancel_left (String.ofList_inj.1 hsame)
    exact (shown_eq_iff position _).1 (List.cons.inj hrest).2
  · intro hplain
    have ht := (plainText_labelled_iff l.style l.isLabel text.toList).2 hplain
    refine ⟨s.addLine (tidy (l.text.toList ++ ' ' :: text.toList)), ?_, ?_⟩
    · rw [Screen.print, toList_message, ht]
      rfl
    · rw [tidy_label htext]
      rfl

/-- A message that cannot be shown is not what stands on the screen in its place: another label
comes first there. -/
theorem report_ne (hother : l.text.toList.head? ≠ other.text.toList.head?) (message : String) :
    report s (.other message) 1 ≠ ⟨s.text ++ (l.text ++ " " ++ text) ++ "\n", .exit 1⟩ := by
  intro h
  rw [report, message_other_eq] at h
  cases hprint : s.print (other.message message) with
  | error f =>
    rw [hprint] at h
    exact nomatch congrArg Transcript.ending h
  | ok s' =>
    rw [hprint] at h
    obtain ⟨line, hline, hhead⟩ := head?_of_print hprint
    have hsame : String.ofList line = l.text ++ " " ++ text :=
      String.append_right_inj _ |>.1 (String.append_left_inj _ |>.1
        (hline.symm.trans (congrArg Transcript.text h)))
    have hlist : line = l.text.toList ++ (" " ++ text).toList := by
      rw [← String.toList_append, ← String.append_assoc, ← hsame, String.toList_ofList]
    rw [hlist, List.head?_append_of_ne_nil _ l.text_ne_nil] at hhead
    exact hother hhead

/-- **A run ends with the text of its message just in case it is plain.** -/
theorem conclude_finish_iff (hother : l.text.toList.head? ≠ other.text.toList.head?)
    (htext : ∀ c ∈ text.toList, isKept c = true) :
    (conclude (finish s (l.message text) 1).1 (finish s (l.message text) 1).2
      = ⟨s.text ++ (l.text ++ " " ++ text) ++ "\n", .exit 1⟩) ↔ isPlain text.toList = true := by
  rw [← print_iff (s := s) htext, finish]
  cases s.print (l.message text) with
  | ok s' =>
    refine ⟨fun h => ⟨s', rfl, congrArg Transcript.text h⟩, ?_⟩
    rintro ⟨t, ⟨⟩, ht⟩
    exact congrArg (Transcript.mk · (.exit 1)) ht
  | error f => exact ⟨fun h => absurd h (report_ne hother f.message), fun ⟨_, h, _⟩ => nomatch h⟩

end

end Label

/-! ### The error about a missing file -/

/-- The full text of the error about a file that is not there. -/
def missingText (place : Path) : String :=
  "Properties file not found: " ++ place.text ++ ("\nConfig file: " ++ place.text)
    ++ ("\n\nSuggestions:" ++ "\n  1. Check if the properties file exists at the specified path"
    ++ "\n  2. Verify file permissions allow reading")

theorem text_fileNotFound {place : Path} (h : place.text ≠ "") :
    ConfigError.text ⟨"Properties file not found: " ++ place.text, .fileNotFound (.text place.text)⟩
      = missingText place := by
  have htruthy : (Value.text place.text).isTruthy = true := bne_iff_ne.2 h
  have hline : ConfigError.fileLine (.text place.text) = .ok ("\nConfig file: " ++ place.text) := by
    rw [ConfigError.fileLine, if_pos htruthy]
    rfl
  have hnumbered : ConfigError.numbered 1
      [.text "Check if the properties file exists at the specified path",
        .text "Verify file permissions allow reading"]
      = .ok ("\n  1. Check if the properties file exists at the specified path"
        ++ "\n  2. Verify file permissions allow reading") := by
    cbv
  have htext : ConfigError.text? ⟨"Properties file not found: " ++ place.text,
      .fileNotFound (.text place.text)⟩ = .ok (missingText place) := by
    rw [ConfigError.text?]
    show (ConfigError.fileLine (.text place.text) >>= fun about => ConfigError.numbered 1
      [.text "Check if the properties file exists at the specified path",
        .text "Verify file permissions allow reading"] >>= _) = _
    rw [hline, hnumbered]
    rfl
  rw [ConfigError.text, htext]
  rfl

/-- An absolute path has a text. -/
theorem text_ne_of_isAbsolute {place : Path} (h : place.isAbsolute = true) : place.text ≠ "" := by
  obtain ⟨anchor, components⟩ := place
  intro htext
  cases anchor with
  | relative => cases h
  | root => exact absurd (String.append_eq_empty_iff.1 htext).1 (by simp [Anchor.text])
  | doubleRoot => exact absurd (String.append_eq_empty_iff.1 htext).1 (by simp [Anchor.text])

/-- The command ends with a fault if the file is not there. -/
theorem fail_fileNotFound (s : Screen) {place : Path} (h : place.isAbsolute = true) :
    fail s (.fileNotFound place)
      = finish s (Label.configuration.message (missingText place)) 1 := by
  have herror : (Fault.fileNotFound place).configError?
      = some ⟨"Properties file not found: " ++ place.text, .fileNotFound (.text place.text)⟩ := rfl
  rw [fail, herror]
  show finish s (configurationMessage (ConfigError.text _)) 1 = _
  rw [text_fileNotFound (text_ne_of_isAbsolute h), Label.configurationMessage_eq]

/-- The error about a file that is not there has no brackets of its own, and kept characters. -/
theorem of_mem_missingText {place : Path} {c : Char} (hc : c ∈ (missingText place).toList) :
    c ∈ place.text.toList ∨ (isKept c = true ∧ c ≠ '[') := by
  have hboth : ∀ {P : Char → Prop} {a b : String}, (∀ c ∈ a.toList, P c) →
      (∀ c ∈ b.toList, P c) → ∀ c ∈ (a ++ b).toList, P c := by
    intro P a b ha hb c hc
    rw [String.toList_append, List.mem_append] at hc
    exact hc.elim (ha c) (hb c)
  have hown : ∀ {a : String}, a.toList.all (fun c => isKept c && c != '[') = true →
      ∀ c ∈ a.toList, c ∈ place.text.toList ∨ (isKept c = true ∧ c ≠ '[') := by
    intro a ha c hc
    have h := List.all_eq_true.1 ha c hc
    rw [Bool.and_eq_true, bne_iff_ne] at h
    exact .inr h
  have hplace : ∀ c ∈ place.text.toList,
      c ∈ place.text.toList ∨ (isKept c = true ∧ c ≠ '[') := fun c => .inl
  exact hboth (hboth (hboth (hown (by cbv)) hplace) (hboth (hown (by cbv)) hplace))
    (hown (by cbv)) c hc

/-! ### Runs -/

section Runs

variable (w : World) (options : List GlobalOption) (asDuration : Bool) {file key : String}

/-- The command reports a key that a file does not give a value. -/
theorem run_get_of_unset {found : OrderedMap String String} (hprops : w.properties file = .ok found)
    (hfind : found.find? key = none) :
    run w (getLine options asDuration file key)
      = let ended := finish (w.opened options file) (Label.unset.message key) 1
        conclude ended.1 ended.2 := by
  obtain ⟨events, hopen⟩ := openStore_eq w file
  rw [hprops, Except.map] at hopen
  have hnone : (plainStore found).get key = none := (get_plainStore found key).trans hfind
  rw [run_getLine, World.opened, hopen, ← Label.unsetMessage_eq]
  unfold Command.run
  simp only [hopen, hnone]
  rfl

/-- The command reports a file that is not there. -/
theorem run_get_of_missing {place : Path}
    (hplace : Properties.locate w.here w.here (.ofString file) = .ok place)
    (hmissing : w.files place = none) :
    run w (getLine options asDuration file key)
      = let ended :=
          finish (w.opened options file) (Label.configuration.message (missingText place)) 1
        conclude ended.1 ended.2 := by
  have hopen : openStore w (.ofString file)
      = (.error (.fileNotFound place), [.loading place, .fileNotFound place]) := by
    rw [openStore, Store.ofFile, hplace]
    dsimp only
    rw [Properties.load, hmissing]
  rw [run_getLine, World.opened, hopen,
    ← fail_fileNotFound _ (Properties.isAbsolute_of_locate hplace)]
  unfold Command.run
  simp only [hopen]
  rfl

end Runs

/-- **A missing key or file is reported as it was written if and only if the text of the report is
plain.**  That is so for keys and paths of simple characters, whatever the options; and a missing
file is reported with the full text of the error, which names the place that the path leads to. -/
theorem get_reports (w : World) (options : List GlobalOption) (asDuration : Bool)
    (file key : String) :
    (∀ found, (∀ c ∈ key.toList, isSimple c = true) → w.properties file = .ok found →
      found.find? key = none →
      (run w (getLine options asDuration file key)
          = ⟨(w.opened options file).text ++ ("Key not set: " ++ key) ++ "\n", .exit 1⟩
        ↔ isPlain key.toList = true)) ∧
    ∀ place, (∀ c ∈ file.toList, isSimple c = true) →
      (file.toList.head? ≠ some '/' → w.here.Within fun c => isSimple c = true) →
      Properties.locate w.here w.here (.ofString file) = .ok place → w.files place = none →
      (run w (getLine options asDuration file key)
          = ⟨(w.opened options file).text ++ ("Configuration Error: " ++ missingText place) ++ "\n",
            .exit 1⟩
        ↔ isPlain (missingText place).toList = true) := by
  constructor
  · intro found hkey hprops hfind
    rw [run_get_of_unset w options asDuration hprops hfind]
    exact Label.conclude_finish_iff (l := Label.unset) (by simp [Label.unset, Label.other])
      fun c hc => isKept_of_isSimple (hkey c hc)
  · intro place hfile hhere hplace hmissing
    have hkept : ∀ c ∈ place.text.toList, isKept c = true := by
      have hwithin : place.Within fun c => isSimple c = true := by
        refine Properties.within_of_locate (Path.within_ofString hfile) (fun habs => ?_) hplace
        -- only a relative path begins with the current directory
        have hrelative : file.toList.head? ≠ some '/' := fun hslash =>
          absurd ((Path.isAbsolute_ofString file).2 hslash) (by rw [habs]; exact Bool.false_ne_true)
        exact ⟨hhere hrelative, hhere hrelative⟩
      intro c hc
      exact isKept_of_isSimple (hwithin.forall_mem_text
        (Properties.isAbsolute_of_locate hplace) (by decide) c hc)
    rw [run_get_of_missing w options asDuration hplace hmissing]
    exact Label.conclude_finish_iff (l := Label.configuration)
      (by simp [Label.configuration, Label.other])
      fun c hc => (of_mem_missingText hc).elim (hkept c) And.left

/-- A key with a bracket and a path with a blank, which are plain. -/
theorem get_reports_of_plain :
    let w : World := ⟨fun p => if p = ⟨.root, ["work", "f"]⟩ then some [] else none,
      ⟨.root, ["work"]⟩, [], "[00:00:00]"⟩
    run w ["get", "--", "f", "x[5]\\"] = ⟨"Key not set: x[5]\\\n", .exit 1⟩ ∧
      run w ["get", "--", "g h", "k"]
        = ⟨"[00:00:00] ERROR    Properties file not found: /work/g h\n"
            ++ ("Configuration Error: " ++ missingText ⟨.root, ["work", "g h"]⟩) ++ "\n",
          .exit 1⟩ := by
  intro w
  have hprops : w.properties "f" = .ok .empty := by cbv
  have hopened : (w.opened [] "f").text = "" := by cbv
  have hplace : Properties.locate w.here w.here (.ofString "g h")
      = .ok ⟨.root, ["work", "g h"]⟩ := rfl
  have hmissing : openStore w (.ofString "g h")
      = (.error (.fileNotFound ⟨.root, ["work", "g h"]⟩),
        [.loading ⟨.root, ["work", "g h"]⟩, .fileNotFound ⟨.root, ["work", "g h"]⟩]) := by cbv
  have hrecords : (w.opened [] "g h").text
      = "[00:00:00] ERROR    Properties file not found: /work/g h\n" := by
    have hlog : (Screen.blank.log ⟨false, .standard, "[00:00:00]"⟩
        [.loading ⟨.root, ["work", "g h"]⟩, .fileNotFound ⟨.root, ["work", "g h"]⟩]).text
        = "[00:00:00] ERROR    Properties file not found: /work/g h\n" := rfl
    rw [World.opened, hmissing]
    exact hlog
  have hhere : w.here.Within fun c => isSimple c = true := by
    rintro name (_ | ⟨-, ⟨⟩⟩)
    exact List.all_eq_true.1 (by cbv)
  have hbracket : '[' ∉ (missingText ⟨.root, ["work", "g h"]⟩).toList := fun h =>
    (of_mem_missingText h).elim (by simp [Path.text, Anchor.text]) fun hown => hown.2 rfl
  have hkey := (get_reports w [] false "f" "x[5]\\").1 .empty
    (List.all_eq_true.1 (by cbv)) hprops rfl
  have hpath := (get_reports w [] false "g h" "k").2 ⟨.root, ["work", "g h"]⟩
    (List.all_eq_true.1 (by cbv)) (fun _ => hhere) hplace (by decide)
  rw [hopened] at hkey
  rw [hrecords] at hpath
  exact ⟨hkey.2 (by cbv), hpath.2 (allBrackets_of_not_mem hbracket)⟩

/-- A key that looks like a tag is not shown, although the file can be loaded and has no such
key. -/
theorem get_loses_tag :
    let w : World := ⟨fun p => if p = ⟨.root, ["work", "f"]⟩ then some [] else none,
      ⟨.root, ["work"]⟩, [], "[00:00:00]"⟩
    (∀ c ∈ "[bold]".toList, isSimple c = true) ∧ w.properties "f" = .ok .empty ∧
      run w ["get", "--", "f", "[bold]"] = ⟨"Key not set: \n", .exit 1⟩ := by
  intro w
  have hprops : w.properties "f" = .ok .empty := by cbv
  have hopened : w.opened [] "f" = .blank := by cbv
  have hprint : Screen.blank.print (Label.unset.message "[bold]")
      = .ok ⟨"Key not set: \n", false⟩ := by
    have hshown : plainText (labelled Label.unset.style Label.unset.text.toList "[bold]".toList)
        = .ok "Key not set: ".toList := by cbv
    rw [Screen.print, Label.toList_message, hshown]
    rfl
  have hrun : run w ["get", "--", "f", "[bold]"]
      = conclude (finish .blank (Label.unset.message "[bold]") 1).1
          (finish .blank (Label.unset.message "[bold]") 1).2 := by
    rw [← hopened]
    exact run_get_of_unset w [] false hprops rfl
  refine ⟨List.all_eq_true.1 (by cbv), hprops, ?_⟩
  rw [hrun, finish, hprint]
  rfl

end Settings.Cli
