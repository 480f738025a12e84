import Settings.Proofs.Number.Numeral
import Settings.Proofs.Properties.Loading
import Settings.Proofs.Text.WellFormed

/-!
# Files that are no text

A properties file is loaded if and only if its octets are well-formed; whatever text they stand
for, there are statements in it, if only bad ones.  A file that is no text is reported with its
path and the place where its whole characters end.  How the lines of a text end does not matter.

## Main definitions

* `loadFrom` — the properties of a file that is looked for from a directory.
* `withLineEnd` — a text with another line end for each line feed.

## Main results

* `normaliseLines_withLineEnd` — every line end is read as a line feed.
* `load_of_error`, `load_withLineEnd` — what becomes of a file that is no text, and of one with
  other line ends.
* `loadFrom_outcome` — **a file is loaded if it is a text, and else reported where it stops being
  one.**
-/

namespace Settings.Properties

open Text Number

/-! ### Line ends -/

/-- The text with another line end for each line feed. -/
def withLineEnd (lineEnd cs : List Char) : List Char :=
  cs.flatMap fun c => if c = '\n' then lineEnd else [c]

theorem withLineEnd_line (lineEnd cs : List Char) :
    withLineEnd lineEnd ('\n' :: cs) = lineEnd ++ withLineEnd lineEnd cs := by
  rw [withLineEnd, List.flatMap_cons, if_pos rfl]
  rfl

theorem withLineEnd_cons {c : Char} (h : c ≠ '\n') (lineEnd cs : List Char) :
    withLineEnd lineEnd (c :: cs) = c :: withLineEnd lineEnd cs := by
  rw [withLineEnd, List.flatMap_cons, if_neg h]
  rfl

/-- The line ends of a text: a return and a line feed, or a return alone. -/
def lineEnds : List (List Char) := [['\r', '\n'], ['\r']]

/-- No line feed is left where each has been replaced by a return. -/
theorem head?_withLineEnd_return (cs : List Char) : (withLineEnd ['\r'] cs).head? ≠ some '\n' := by
  cases cs with
  | nil => exact nofun
  | cons c cs =>
    by_cases hc : c = '\n'
    · rw [hc, withLineEnd_line]
      exact fun h => absurd (Option.some.inj h) (by decide)
    · rw [withLineEnd_cons hc]
      exact fun h => hc (Option.some.inj h)

theorem normaliseLines_return {cs : List Char} (h : cs.head? ≠ some '\n') :
    normaliseLines ('\r' :: cs) = '\n' :: normaliseLines cs := by
  cases cs with
  | nil => rfl
  | cons c cs =>
    rw [normaliseLines]
    rintro ds hds
    exact h (congrArg List.head? hds)

theorem normaliseLines_cons {c : Char} (h : c ≠ '\r') (cs : List Char) :
    normaliseLines (c :: cs) = c :: normaliseLines cs := by
  rw [normaliseLines] <;> simp [h]

/-- **Every line end is read as a line feed.** -/
theorem normaliseLines_withLineEnd {lineEnd cs : List Char} (hend : lineEnd ∈ lineEnds)
    (h : '\r' ∉ cs) : normaliseLines (withLineEnd lineEnd cs) = cs := by
  induction cs with
  | nil => rfl
  | cons c cs ih =>
    rw [List.mem_cons, not_or] at h
    by_cases hc : c = '\n'
    · rw [hc, withLineEnd_line]
      rcases List.mem_pair.1 hend with rfl | rfl
      · exact congrArg _ (ih h.2)
      · exact (normaliseLines_return (head?_withLineEnd_return cs)).trans (congrArg _ (ih h.2))
    · rw [withLineEnd_cons hc, normaliseLines_cons (Ne.symm h.1), ih h.2]

/-! ### Files -/

/-- The properties of the file that a path leads to, seen from a directory, and what is logged. -/
def loadFrom (files : Files) (here root path : Path) :
    Except Fault (OrderedMap String String) × List Event :=
  match locate here root path with
  | .error fault => (.error fault, [])
  | .ok place => load files place

section

variable {files : Files} {place : Path}

/-- What becomes of a file that is no text. -/
theorem load_of_error {octets : List UInt8} (hfile : files place = some octets) {f : Utf8.Fault}
    (hf : Utf8.decode octets = .error f) :
    load files place = (.error (.undecodable place f), [.loading place, .undecodable place f]) := by
  rw [load, hfile]
  dsimp only
  rw [hf]

/-- How the lines of a text end does not matter to what becomes of it. -/
theorem load_withLineEnd {files' : Files} {lineEnd cs : List Char} (hend : lineEnd ∈ lineEnds)
    (hreturn : '\r' ∉ cs) (hfile : files place = some (Utf8.encode cs))
    (hfile' : files' place = some (Utf8.encode (withLineEnd lineEnd cs))) :
    load files' place = load files place := by
  have hparse : parse (withLineEnd lineEnd cs) = parse cs := by
    rw [parse, normaliseLines_withLineEnd hend hreturn, parse, normaliseLines_eq_self hreturn]
  rw [load_of_encode hfile', load_of_encode hfile, hparse]

end

/-- The wording of a fault gives the position where it starts, and perhaps that of its end. -/
theorem message_utf8 (f : Utf8.Fault) :
    ∃ what more rest, f.message = "'utf-8' codec can't decode " ++ what ++ " in position "
        ++ toString f.start ++ more ∧ (more = ": " ++ rest ∨ more = "-" ++ rest) := by
  have hstart : numeral f.start = toString f.start := numeralInt_eq_toString f.start
  have hmessage : f.message = "'utf-8' codec can't decode "
      ++ (if f.start = f.last then
          "byte 0x" ++ String.ofList (hexPadded 2 f.octet.toNat) ++ " in position "
            ++ numeral f.start
        else "bytes in position " ++ numeral f.start ++ "-" ++ numeral f.last)
      ++ ": " ++ f.reason.message := rfl
  have hbytes : "bytes in position " = "bytes" ++ " in position " := rfl
  rw [hmessage, hstart]
  by_cases h : f.start = f.last
  · refine ⟨"byte 0x" ++ String.ofList (hexPadded 2 f.octet.toNat), _, f.reason.message, ?_,
      .inl rfl⟩
    rw [if_pos h]
    simp only [String.append_assoc]
  · refine ⟨"bytes", _, numeral f.last ++ ": " ++ f.reason.message, ?_, .inr rfl⟩
    rw [if_neg h, hbytes]
    simp only [String.append_assoc]

/-- **A file is loaded if it is a text, and else reported where it stops being one.**  The report
is a general configuration error that names the file, after an event about the attempt and one
about the error.  A text is loaded, whatever statements it holds, and its properties are those of
the text with other line ends. -/
theorem loadFrom_outcome {files : Files} {here root path place : Path} {octets : List UInt8}
    (hplace : locate here root path = .ok place) (hfile : files place = some octets) :
    ((∃ fault, (loadFrom files here root path).1 = .error fault) ↔ ¬ Utf8.WellFormed octets) ∧
    (∀ fault events, loadFrom files here root path = (.error fault, events) →
      ∃ f, fault = .undecodable place f ∧ Utf8.WholeUpTo octets f.start ∧
        fault.configError? = some ⟨"Error reading properties file " ++ place.text ++ ": "
          ++ f.message, .general (.text place.text) []⟩ ∧
        (∃ what more rest, f.message = "'utf-8' codec can't decode " ++ what ++ " in position "
          ++ toString f.start ++ more ∧ (more = ": " ++ rest ∨ more = "-" ++ rest)) ∧
        events = [.loading place, .undecodable place f] ∧
        events.map Event.level = [.debug, .error]) ∧
    ∀ cs, Utf8.encode cs = octets →
      ∃ found events, loadFrom files here root path = (.ok found, events) ∧
        ('\r' ∉ cs → ∀ lineEnd ∈ lineEnds, ∀ files' : Files,
          files' place = some (Utf8.encode (withLineEnd lineEnd cs)) →
          loadFrom files' here root path = (.ok found, events)) := by
  have hfrom : ∀ files : Files, loadFrom files here root path = load files place := by
    intro files
    rw [loadFrom, hplace]
  simp only [hfrom]
  rcases Utf8.wellFormed_or_error octets with ⟨cs, rfl⟩ | ⟨hbroken, f, hf⟩
  · refine ⟨?_, ?_, ?_⟩
    · rw [load_of_encode hfile]
      exact ⟨fun ⟨_, h⟩ => (nomatch h), fun h => absurd ⟨cs, rfl⟩ h⟩
    · intro fault events h
      rw [load_of_encode hfile] at h
      cases h
    · intro ds hds
      rw [← hds] at hfile
      refine ⟨_, _, load_of_encode hfile, fun hreturn lineEnd hend files' hfile' => ?_⟩
      rw [load_withLineEnd hend hreturn hfile hfile', load_of_encode hfile]
  · rw [load_of_error hfile hf]
    refine ⟨⟨fun _ => hbroken, fun _ => ⟨_, rfl⟩⟩, ?_, fun cs hcs => absurd ⟨cs, hcs⟩ hbroken⟩
    rintro fault events ⟨⟩
    exact ⟨f, rfl, Utf8.wholeUpTo_of_decode_error hf, rfl, message_utf8 f, rfl, rfl⟩

/-- A surrogate after four octets of text, and the same text with returns for line feeds. -/
theorem loadFrom_outcome_of_surrogate :
    (let octets := [0x6B, 0x3D, 0xC3, 0xA9, 0xED, 0xA0, 0x80]
      ∃ events, loadFrom (fun _ => some octets) ⟨.root, ["work"]⟩ ⟨.root, ["work"]⟩
          ⟨.relative, ["settings"]⟩
        = (.error (.undecodable ⟨.root, ["work", "settings"]⟩ ⟨4, 4, 0xED, .invalidContinuation⟩),
          events) ∧ Utf8.WholeUpTo octets 4 ∧ events.map Event.level = [.debug, .error]) ∧
    ∃ found events,
      loadFrom (fun _ => some (Utf8.encode "a=1\nb='\n'".toList)) ⟨.root, []⟩ ⟨.root, []⟩
          ⟨.root, ["settings"]⟩ = (.ok found, events) ∧
        loadFrom (fun _ => some (Utf8.encode "a=1\rb='\r'".toList)) ⟨.root, []⟩ ⟨.root, []⟩
          ⟨.root, ["settings"]⟩ = (.ok found, events) := by
  constructor
  · intro octets
    have hplace : locate ⟨.root, ["work"]⟩ ⟨.root, ["work"]⟩ ⟨.relative, ["settings"]⟩
        = .ok ⟨.root, ["work", "settings"]⟩ := rfl
    let files : Files := fun _ => some octets
    have hfile : files ⟨.root, ["work", "settings"]⟩ = some octets := rfl
    obtain ⟨-, herror, -⟩ := loadFrom_outcome hplace hfile
    have hload : loadFrom (fun _ => some octets) ⟨.root, ["work"]⟩ ⟨.root, ["work"]⟩
        ⟨.relative, ["settings"]⟩
      = (.error (.undecodable ⟨.root, ["work", "settings"]⟩ ⟨4, 4, 0xED, .invalidContinuation⟩),
        [.loading ⟨.root, ["work", "settings"]⟩,
          .undecodable ⟨.root, ["work", "settings"]⟩ ⟨4, 4, 0xED, .invalidContinuation⟩]) := rfl
    obtain ⟨f, hf, hwhole, -, -, -, hlevels⟩ := herror _ _ hload
    cases hf
    exact ⟨_, hload, hwhole, hlevels⟩
  · have hplace : locate ⟨.root, []⟩ ⟨.root, []⟩ ⟨.root, ["settings"]⟩
        = .ok ⟨.root, ["settings"]⟩ := locate_of_isAbsolute rfl
    let files : Files := fun _ => some (Utf8.encode "a=1\nb='\n'".toList)
    have hfile : files ⟨.root, ["settings"]⟩ = some (Utf8.encode "a=1\nb='\n'".toList) := rfl
    obtain ⟨-, -, htext⟩ := loadFrom_outcome hplace hfile
    obtain ⟨found, events, hload, hends⟩ := htext "a=1\nb='\n'".toList rfl
    exact ⟨found, events, hload, hends (by decide) ['\r'] (by decide) _ rfl⟩

end Settings.Properties
