import Mathlib
import Settings.Proofs.Fault
import Settings.Proofs.Text.Span
import Settings.Terminal.Markup

/-!
# What markup shows

The renderer keeps the text between the tags of its markup, less backslashes: a bracket loses one
of those before it, or half of them if it starts a tag.  So what is shown is always a part of the
markup, in the same order, and it is all of it just in case no bracket starts a tag or follows a
backslash.  This is the induction below: each piece either keeps its characters or loses some,
and none ever adds any.

## Main definitions

* `allBrackets` — a condition on each bracket: whether it follows a backslash, and starts a tag.
* `isPlain` — no bracket does either.
* `shown` — the text of pieces.
* `LabelStyle`, `labelled` — a label in a style, with a text after it.

## Main results

* `shown_sublist` — what is shown is a part of the markup.
* `shown_eq_iff` — **markup shows itself if and only if it is plain.**
* `plainText_eq_ok_iff`, `plainText_of_isText` — what the renderer answers.
* `plainText_labelled_iff` — a labelled text is shown as it is if and only if it is plain.
-/

namespace Settings.Terminal

open Text

/-! ### Tags -/

/-- A tag is what stands between its brackets. -/
theorem eq_of_tagBody? {cs body after : List Char} (h : tagBody? cs = some (body, after)) :
    cs = body ++ ']' :: after := by
  unfold tagBody? at h
  split at h
  · cases h
  · next c cs =>
    split at h
    · split at h
      · next rest hd =>
        cases h
        rw [List.cons_append, ← hd, List.takeWhile_append_dropWhile]
      · cases h
    · cases h

/-- A tag is one whatever follows its closing bracket. -/
theorem tagBody?_append {c : Char} {cs : List Char} (hc : startsTag c = true)
    (hcs : ∀ d ∈ cs, inTag d = true) (after : List Char) :
    tagBody? (c :: cs ++ ']' :: after) = some (c :: cs, after) := by
  have hstop : ∀ d, (']' :: after).head? = some d → inTag d = false := by
    rintro d ⟨⟩
    decide
  rw [List.cons_append, tagBody?, if_pos hc, dropWhile_append_of_stop hcs hstop,
    takeWhile_append_of_stop hcs hstop]
  rfl

/-- Every opening bracket of a text is allowed, by whether it follows a backslash and whether it
starts a tag; `slashed` says whether a backslash stands before the text. -/
def allBrackets (allowed : (slashed isTag : Bool) → Bool) (slashed : Bool) : List Char → Bool
  | [] => true
  | c :: cs =>
    (c != '[' || allowed slashed (tagBody? cs).isSome) && allBrackets allowed (c == '\\') cs

/-- No opening bracket of a text follows a backslash or starts a tag. -/
def isPlain (cs : List Char) : Bool :=
  allBrackets (fun slashed isTag => !slashed && !isTag) false cs

section Brackets

variable {allowed : (slashed isTag : Bool) → Bool} {slashed : Bool}

theorem allBrackets_slash (cs : List Char) :
    allBrackets allowed slashed ('\\' :: cs) = allBrackets allowed true cs := rfl

theorem allBrackets_bracket (cs : List Char) :
    allBrackets allowed slashed ('[' :: cs)
      = (allowed slashed (tagBody? cs).isSome && allBrackets allowed false cs) := rfl

theorem allBrackets_cons {c : Char} (hslash : c ≠ '\\') (hbracket : c ≠ '[') (cs : List Char) :
    allBrackets allowed slashed (c :: cs) = allBrackets allowed false cs := by
  rw [allBrackets, bne_iff_ne.2 hbracket, beq_eq_false_iff_ne.2 hslash, Bool.true_or,
    Bool.true_and]

/-- A text without opening brackets meets every condition on them. -/
theorem allBrackets_of_not_mem {cs : List Char} (h : '[' ∉ cs) :
    allBrackets allowed slashed cs = true := by
  induction cs generalizing slashed with
  | nil => rfl
  | cons c cs ih =>
    rw [List.mem_cons, not_or] at h
    rw [allBrackets, bne_iff_ne.2 (Ne.symm h.1), ih h.2]
    rfl

end Brackets

/-! ### Pieces -/

/-- The text of a piece: a tag has none. -/
def Piece.shown : Piece → List Char
  | .text cs => cs
  | .tag _ _ => []

/-- The text of pieces. -/
def shown (ps : List Piece) : List Char := ps.flatMap Piece.shown

/-- The piece is plain text. -/
def Piece.isText : Piece → Bool
  | .text _ => true
  | .tag _ _ => false

theorem shown_text (cs : List Char) (ps : List Piece) : shown (.text cs :: ps) = cs ++ shown ps :=
  List.flatMap_cons

theorem shown_tag (position : Nat) (body : List Char) (ps : List Piece) :
    shown (.tag position body :: ps) = shown ps := List.flatMap_cons

theorem backslashes_succ (n : Nat) (cs : List Char) :
    backslashes (n + 1) ++ cs = backslashes n ++ '\\' :: cs := by
  rw [backslashes, List.replicate_succ', List.append_assoc]
  rfl

theorem length_backslashes (n : Nat) : (backslashes n).length = n := List.length_replicate

theorem backslashes_sublist {m n : Nat} (h : m ≤ n) : (backslashes m).Sublist (backslashes n) :=
  (List.replicate_sublist_replicate _).2 h

/-- **What is shown is a part of the markup**, in the same order. -/
theorem shown_sublist (position slashes : Nat) (cs : List Char) :
    (shown (piecesFrom position slashes cs)).Sublist (backslashes slashes ++ cs) := by
  fun_induction piecesFrom position slashes cs with
  | case1 position slashes =>
    rw [shown_text]
    exact List.Sublist.refl _
  | case2 position slashes rest ih =>
    rw [← backslashes_succ]
    exact ih
  | case3 position slashes rest body after htag next kept hodd ih =>
    -- a tag after an odd number of backslashes is shown, and half of them
    rw [shown_text, shown_text, eq_of_tagBody? htag]
    refine (backslashes_sublist (Nat.div_le_self slashes 2)).append ?_
    rw [List.append_assoc]
    exact ((ih.cons_cons ']').append_left body).cons_cons '['
  | case4 position slashes rest body after htag next kept hodd ih =>
    rw [shown_text, shown_tag, eq_of_tagBody? htag]
    refine (backslashes_sublist (Nat.div_le_self slashes 2)).append ?_
    exact ((ih.cons ']').trans (List.sublist_append_right body _)).cons '['
  | case5 position slashes rest htag ih =>
    rw [shown_text, List.append_assoc]
    exact (backslashes_sublist (Nat.sub_le slashes 1)).append (ih.cons_cons '[')
  | case6 position slashes c rest hslash hbracket ih =>
    rw [shown_text, List.append_assoc]
    exact (ih.cons_cons c).append_left _

/-- Nothing is shown that is not in the markup, backslashes before it included. -/
theorem length_shown_le (position slashes : Nat) (cs : List Char) :
    (shown (piecesFrom position slashes cs)).length ≤ slashes + cs.length := by
  have h := (shown_sublist position slashes cs).length_le
  rwa [List.length_append, length_backslashes] at h

/-- The brackets of a text after a number of backslashes, none of which may follow a backslash or
start a tag. -/
theorem shown_eq_iff_allBrackets (position slashes : Nat) (cs : List Char) :
    shown (piecesFrom position slashes cs) = backslashes slashes ++ cs ↔
      allBrackets (fun slashed isTag => !slashed && !isTag) (decide (0 < slashes)) cs = true := by
  fun_induction piecesFrom position slashes cs with
  | case1 position slashes =>
    rw [shown_text]
    exact ⟨fun _ => rfl, fun _ => rfl⟩
  | case2 position slashes rest ih =>
    rw [← backslashes_succ, ih, allBrackets_slash, decide_eq_true (Nat.succ_pos slashes)]
  | case3 position slashes rest body after htag next kept hodd ih =>
    rw [allBrackets_bracket, htag]
    refine ⟨fun h => ?_, fun h => ?_⟩
    · -- half of the backslashes are lost
      have hafter := length_shown_le next 0 after
      have hlength := congrArg List.length h
      rw [shown_text, shown_text, eq_of_tagBody? htag] at hlength
      simp only [List.length_append, List.length_cons, length_backslashes, List.length_nil]
        at hlength
      omega
    · simp at h
  | case4 position slashes rest body after htag next kept hodd ih =>
    rw [allBrackets_bracket, htag]
    refine ⟨fun h => ?_, fun h => ?_⟩
    · -- the tag is lost
      have hafter := length_shown_le next 0 after
      have hlength := congrArg List.length h
      rw [shown_text, shown_tag, eq_of_tagBody? htag] at hlength
      simp only [List.length_append, List.length_cons, length_backslashes] at hlength
      omega
    · simp at h
  | case5 position slashes rest htag ih =>
    rw [allBrackets_bracket, htag, shown_text]
    rcases Nat.eq_zero_or_pos slashes with rfl | hslashes
    · exact (List.cons_inj_right '[').trans ih
    · refine ⟨fun h => ?_, fun h => ?_⟩
      · have hrest := length_shown_le (position + 1) 0 rest
        have hlength := congrArg List.length h
        simp only [List.length_append, List.length_cons, length_backslashes, List.length_nil]
          at hlength
        omega
      · rw [decide_eq_true hslashes] at h
        simp at h
  | case6 position slashes c rest hslash hbracket ih =>
    rw [allBrackets_cons hslash hbracket, shown_text, List.append_assoc, List.append_cancel_left_eq]
    exact (List.cons_inj_right c).trans ih

/-- **Markup shows itself if and only if it is plain.** -/
theorem shown_eq_iff (position : Nat) (cs : List Char) :
    shown (piecesFrom position 0 cs) = cs ↔ isPlain cs = true :=
  shown_eq_iff_allBrackets position 0 cs

/-- The pieces of a plain text are plain text. -/
theorem isText_of_allBrackets {position slashes : Nat} {cs : List Char}
    (h : allBrackets (fun slashed isTag => !slashed && !isTag) (decide (0 < slashes)) cs = true) :
    ∀ p ∈ piecesFrom position slashes cs, p.isText = true := by
  fun_induction piecesFrom position slashes cs with
  | case1 position slashes => simp [Piece.isText]
  | case2 position slashes rest ih =>
    rw [allBrackets_slash] at h
    exact ih (by rw [decide_eq_true (Nat.succ_pos slashes)]; exact h)
  | case3 position slashes rest body after htag next kept hodd ih =>
    rw [allBrackets_bracket, htag] at h
    simp at h
  | case4 position slashes rest body after htag next kept hodd ih =>
    rw [allBrackets_bracket, htag] at h
    simp at h
  | case5 position slashes rest htag ih =>
    rw [allBrackets_bracket, Bool.and_eq_true] at h
    exact List.forall_mem_cons.2 ⟨rfl, ih h.2⟩
  | case6 position slashes c rest hslash hbracket ih =>
    rw [allBrackets_cons hslash hbracket] at h
    exact List.forall_mem_cons.2 ⟨rfl, ih h⟩

theorem isText_of_isPlain (position : Nat) {cs : List Char} (h : isPlain cs = true) :
    ∀ p ∈ piecesFrom position 0 cs, p.isText = true :=
  isText_of_allBrackets h

/-! ### Rendering -/

section Rendering

variable {start : Nat} {opened : List OpenTag} {ps : List Piece}

theorem textOf_text (start : Nat) (opened : List OpenTag) (cs : List Char) (ps : List Piece) :
    textOf start opened (.text cs :: ps)
      = (textOf (start + cs.length) opened ps).map fun r => (cs ++ r.1, r.2) := by
  rw [textOf]
  cases textOf (start + cs.length) opened ps <;> rfl

theorem textOf_tag {position : Nat} {body : List Char} {opened' : List OpenTag}
    {ended : List Span} (h : afterTag start opened position body = .ok (opened', ended))
    (ps : List Piece) :
    textOf start opened (.tag position body :: ps)
      = (textOf start opened' ps).map fun r => (r.1, ended ++ r.2) := by
  rw [textOf, h]
  show (textOf start opened' ps >>= _) = _
  cases textOf start opened' ps <;> rfl

/-- A text that is rendered at all is what its pieces show. -/
theorem eq_shown_of_textOf {t : List Char} {spans : List Span}
    (h : textOf start opened ps = .ok (t, spans)) : t = shown ps := by
  induction ps generalizing start opened t spans with
  | nil =>
    cases h
    rfl
  | cons p ps ih =>
    cases p with
    | text cs =>
      obtain ⟨⟨t', spans'⟩, hrest, hpair⟩ := bind_eq_ok_iff.1 h
      cases hpair
      rw [shown_text, ih hrest]
    | tag position body =>
      obtain ⟨⟨opened', ended⟩, -, hafter⟩ := bind_eq_ok_iff.1 h
      obtain ⟨⟨t', spans'⟩, hrest, hpair⟩ := bind_eq_ok_iff.1 hafter
      cases hpair
      rw [shown_tag, ih hrest]

/-- Plain text is rendered as it is. -/
theorem textOf_of_isText (start : Nat) (h : ∀ p ∈ ps, p.isText = true) :
    textOf start [] ps = .ok (shown ps, []) := by
  induction ps generalizing start with
  | nil => rfl
  | cons p ps ih =>
    rw [List.forall_mem_cons] at h
    cases p with
    | text cs =>
      rw [textOf_text, ih _ h.2, shown_text]
      rfl
    | tag position body => cases h.1

/-- Spans can be worked out if the style of each can, in whatever order. -/
theorem checkSpans_eq_ok (text : List Char) {spans : List Span}
    (h : ∀ s ∈ spans, checkStyle s.style = .ok ()) : checkSpans text spans = .ok () := by
  have hall : ∀ ss : List Span, (∀ s ∈ ss, checkStyle s.style = .ok ()) →
      ss.forM (fun s => checkStyle s.style) = .ok () := by
    intro ss hss
    induction ss with
    | nil => rfl
    | cons s ss ih =>
      rw [List.forall_mem_cons] at hss
      show (checkStyle s.style >>= fun _ => ss.forM fun s => checkStyle s.style) = .ok ()
      rw [hss.1]
      exact ih hss.2
  refine hall _ fun s hs => h s ?_
  rw [List.mem_mergeSort, List.mem_reverse] at hs
  exact (List.mem_filter.1 hs).1

end Rendering

/-- Markup is rendered if its pieces are and their styles can be worked out, whether or not there
are brackets in it. -/
theorem plainText_eq_ok_iff {cs t : List Char} :
    plainText cs = .ok t ↔
      ∃ spans, textOf 0 [] (pieces cs) = .ok (t, spans) ∧ checkSpans t spans = .ok () := by
  unfold plainText
  split
  · constructor
    · intro h
      obtain ⟨⟨t', spans⟩, htext, hchecked⟩ := bind_eq_ok_iff.1 h
      obtain ⟨u, hspans, hpure⟩ := bind_eq_ok_iff.1 hchecked
      cases hpure
      refine ⟨spans, htext, ?_⟩
      cases hcheck : checkSpans t spans with
      | error f =>
        rw [hcheck] at hspans
        cases hspans
      | ok _ => rfl
    · rintro ⟨spans, htext, hspans⟩
      rw [htext]
      show ((checkSpans t spans).mapError MarkupFault.numeral >>= fun _ => _) = _
      rw [hspans]
      rfl
  · next hbracket =>
    have hplain : isPlain cs = true := allBrackets_of_not_mem (by simpa using hbracket)
    have htext : textOf 0 [] (pieces cs) = .ok (cs, []) := by
      have hshown : shown (pieces cs) = cs := (shown_eq_iff 0 cs).2 hplain
      have hrendered := textOf_of_isText 0 (isText_of_isPlain 0 hplain)
      rwa [← pieces, hshown] at hrendered
    constructor
    · rintro ⟨⟩
      exact ⟨[], htext, checkSpans_eq_ok _ fun _ hs => absurd hs List.not_mem_nil⟩
    · rintro ⟨spans, ht, -⟩
      cases htext.symm.trans ht
      rfl

/-- A style for labels. -/
structure LabelStyle where
  /-- The name of the style. -/
  name : List Char
  /-- The name has a character. -/
  name_ne_nil : name ≠ []
  /-- The name is written in small letters of ASCII. -/
  isLetter : ∀ c ∈ name, 97 ≤ c.toNat ∧ c.toNat ≤ 122
  /-- The name is in its normal form. -/
  styleName_name : styleName name = .ok (String.ofList name)
  /-- The colours of the style can be worked out. -/
  check : checkStyle name = .ok ()

namespace LabelStyle

/-- The style of errors. -/
def red : LabelStyle where
  name := "red".toList
  name_ne_nil := by simp
  isLetter := by simp
  styleName_name := by cbv
  check := by cbv

/-- The style of warnings. -/
def yellow : LabelStyle where
  name := "yellow".toList
  name_ne_nil := by simp
  isLetter := by simp
  styleName_name := by cbv
  check := by cbv

variable (s : LabelStyle)

theorem ne_of_mem_name {c d : Char} (hc : c ∈ s.name) (hd : d.toNat < 97) : c ≠ d := by
  rintro rfl
  have := s.isLetter c hc
  omega

theorem inTag_name : ∀ c ∈ s.name, inTag c = true := by
  intro c hc
  rw [inTag, bne_iff_ne.2 (s.ne_of_mem_name hc (by decide)),
    bne_iff_ne.2 (s.ne_of_mem_name hc (by decide))]
  rfl

theorem tagBody?_name (rest : List Char) :
    tagBody? (s.name ++ ']' :: rest) = some (s.name, rest) := by
  cases hname : s.name with
  | nil => exact absurd hname s.name_ne_nil
  | cons c ds =>
    have hc : 'a'.toNat ≤ c.toNat ∧ c.toNat ≤ 'z'.toNat :=
      s.isLetter c (hname ▸ List.mem_cons_self)
    have hstarts : startsTag c = true := by
      rw [startsTag, decide_eq_true hc.1, decide_eq_true hc.2]
      rfl
    exact tagBody?_append hstarts
      (fun d hd => s.inTag_name d (hname ▸ List.mem_cons_of_mem c hd)) rest

theorem tagBody?_closing (rest : List Char) :
    tagBody? ('/' :: s.name ++ ']' :: rest) = some ('/' :: s.name, rest) :=
  tagBody?_append (by decide) s.inTag_name rest

/-- The tag of the style opens it. -/
theorem afterTag_name (start position : Nat) :
    afterTag start [] position s.name = .ok ([⟨String.ofList s.name, none, start⟩], []) := by
  have hequals : ∀ c ∈ s.name, (c != '=') = true := fun c hc =>
    bne_iff_ne.2 (s.ne_of_mem_name hc (by decide))
  have hname : tagName s.name = s.name := List.takeWhile_eq_self_iff.2 hequals
  have hparameters : tagParameters? s.name = none := by
    rw [tagParameters?, List.dropWhile_eq_nil_iff.2 hequals]
  rw [afterTag, hname, hparameters]
  split
  · next ds hds => exact absurd rfl (s.ne_of_mem_name (hds ▸ List.mem_cons_self) (by decide))
  · rw [s.styleName_name]
    rfl

/-- The closing tag ends a span in the style. -/
theorem afterTag_closing (start stop position : Nat) :
    afterTag stop [⟨String.ofList s.name, none, start⟩] position ('/' :: s.name)
      = .ok ([], [⟨start, stop, s.name⟩]) := by
  have hname : tagName ('/' :: s.name) = '/' :: s.name := by
    refine List.takeWhile_eq_self_iff.2 (List.forall_mem_cons.2 ⟨by decide, fun c hc => ?_⟩)
    exact bne_iff_ne.2 (s.ne_of_mem_name hc (by decide))
  have hblank : ∀ c ∈ s.name, isBlank c = false := fun c hc =>
    have := s.isLetter c hc
    isBlank_eq_false (by omega) (by omega)
  have htrim : Text.trim s.name = s.name := by
    rw [Text.trim, trimLeft_eq_self fun c hc => hblank c (List.mem_of_mem_head? hc),
      trimRight_eq_self fun c hc => hblank c (List.mem_of_mem_getLast? hc)]
  have hfound : [(⟨String.ofList s.name, none, start⟩ : OpenTag)].find?
      (·.name == String.ofList s.name) = some ⟨String.ofList s.name, none, start⟩ :=
    List.find?_cons_of_pos (beq_self_eq_true _)
  have hclosed : closedTag [⟨String.ofList s.name, none, start⟩] position s.name ('/' :: s.name)
      = .ok ⟨String.ofList s.name, none, start⟩ := by
    rw [closedTag, List.isEmpty_eq_false_iff.2 s.name_ne_nil, if_neg Bool.false_ne_true,
      s.styleName_name]
    simp only [Except.mapError, bind, Except.bind, hfound]
    rfl
  have hhandler : (⟨String.ofList s.name, none, start⟩ : OpenTag).isHandler = false := by
    rw [OpenTag.isHandler, String.toList_ofList]
    refine beq_eq_false_iff_ne.2 fun hhead => ?_
    exact s.ne_of_mem_name (List.mem_of_mem_head? hhead) (by decide) rfl
  rw [afterTag, hname]
  show (closedTag _ position (Text.trim s.name) ('/' :: s.name) >>= _) = _
  rw [htrim, hclosed]
  show (if OpenTag.isHandler _ = true then _ else _) = _
  have hspan : (⟨String.ofList s.name, none, start⟩ : OpenTag).span stop
      = ⟨start, stop, s.name⟩ := by
    show (⟨start, stop, (String.ofList s.name).toList⟩ : Span) = _
    rw [String.toList_ofList]
  rw [hhandler, if_neg Bool.false_ne_true, List.erase_cons_head, hspan]
  rfl

end LabelStyle

/-! ### Labelled texts -/

/-- Characters that stand for themselves in markup. -/
def IsLabel (cs : List Char) : Prop := ∀ c ∈ cs, c ≠ '\\' ∧ c ≠ '['

/-- A label in a style, and a text after it, as markup. -/
def labelled (s : LabelStyle) (label text : List Char) : List Char :=
  '[' :: (s.name ++ ']' :: (label ++ '[' :: ('/' :: s.name ++ ']' :: ' ' :: text)))

/-- A label is shown as it is, one character after the other. -/
theorem piecesFrom_label (position : Nat) {label : List Char} (h : IsLabel label)
    (rest : List Char) :
    piecesFrom position 0 (label ++ rest)
      = label.map (fun c => .text [c]) ++ piecesFrom (position + label.length) 0 rest := by
  induction label generalizing position with
  | nil => rfl
  | cons c label ih =>
    obtain ⟨hc, hlabel⟩ := List.forall_mem_cons.1 h
    rw [List.cons_append, piecesFrom.eq_4 _ _ _ _ hc.1 hc.2, ih (position + 1) hlabel,
      List.length_cons, Nat.add_right_comm position 1]
    rfl

/-- A tag that no backslash stands before is a piece of its own. -/
theorem piecesFrom_tag (position : Nat) {cs body rest : List Char}
    (h : tagBody? cs = some (body, rest)) :
    piecesFrom position 0 ('[' :: cs)
      = .text [] :: .tag position body :: piecesFrom (position + body.length + 2) 0 rest := by
  rw [piecesFrom.eq_3]
  split
  · next body' after htag =>
    rw [h] at htag
    cases htag
    rfl
  · next hnone =>
    rw [h] at hnone
    cases hnone

/-- An empty text is rendered as nothing. -/
theorem textOf_text_nil (start : Nat) (opened : List OpenTag) (ps : List Piece) :
    textOf start opened (.text [] :: ps) = textOf start opened ps := by
  rw [textOf_text]
  show (textOf start opened ps).map (fun r => r) = _
  cases textOf start opened ps <;> rfl

/-- A label is rendered as it is. -/
theorem textOf_label (start : Nat) (opened : List OpenTag) (label : List Char) (ps : List Piece) :
    textOf start opened (label.map (fun c => .text [c]) ++ ps)
      = (textOf (start + label.length) opened ps).map fun r => (label ++ r.1, r.2) := by
  induction label generalizing start with
  | nil =>
    show textOf start opened ps = (textOf start opened ps).map fun r => r
    cases textOf start opened ps <;> rfl
  | cons c label ih =>
    have hlength : start + [c].length + label.length = start + (c :: label).length := by
      simp only [List.length_cons, List.length_nil]
      omega
    rw [List.map_cons, List.cons_append, textOf_text, ih, hlength]
    cases textOf (start + (c :: label).length) opened ps <;> rfl

section Labelled

variable (s : LabelStyle) {label : List Char}

theorem pieces_labelled (h : IsLabel label) (text : List Char) :
    ∃ stop position, pieces (labelled s label text)
      = .text [] :: .tag 0 s.name :: (label.map (fun c => .text [c]) ++
          .text [] :: .tag stop ('/' :: s.name) :: .text [' '] :: piecesFrom position 0 text) := by
  refine ⟨0 + s.name.length + 2 + label.length,
    0 + s.name.length + 2 + label.length + ('/' :: s.name).length + 2 + 1, ?_⟩
  rw [labelled, pieces, piecesFrom_tag 0 (s.tagBody?_name _), piecesFrom_label _ h,
    piecesFrom_tag _ (s.tagBody?_closing _), piecesFrom.eq_4 _ _ _ _ (by decide) (by decide)]
  rfl

/-- The label is one span in its style, and the text after it stands on its own. -/
theorem textOf_labelled (h : IsLabel label) (text : List Char) :
    ∃ position, textOf 0 [] (pieces (labelled s label text))
      = (textOf (label.length + 1) [] (piecesFrom position 0 text)).map fun r =>
          (label ++ ' ' :: r.1, ⟨0, label.length, s.name⟩ :: r.2) := by
  obtain ⟨stop, position, hpieces⟩ := pieces_labelled s h text
  refine ⟨position, ?_⟩
  rw [hpieces, textOf_text_nil, textOf_tag (s.afterTag_name 0 0), textOf_label, textOf_text_nil,
    Nat.zero_add, textOf_tag (s.afterTag_closing 0 label.length stop), textOf_text]
  show _ = (textOf (label.length + [' '].length) [] (piecesFrom position 0 text)).map _
  cases textOf (label.length + [' '].length) [] (piecesFrom position 0 text) <;> rfl

/-- A labelled text that is rendered at all shows its label, and what the pieces of the text
show. -/
theorem eq_of_plainText_labelled (h : IsLabel label) {text t : List Char}
    (ht : plainText (labelled s label text) = .ok t) :
    ∃ position, t = label ++ ' ' :: shown (piecesFrom position 0 text) := by
  obtain ⟨spans, htext, -⟩ := plainText_eq_ok_iff.1 ht
  obtain ⟨position, hlabelled⟩ := textOf_labelled s h text
  refine ⟨position, ?_⟩
  cases hrest : textOf (label.length + 1) [] (piecesFrom position 0 text) with
  | error f =>
    rw [hlabelled, hrest] at htext
    cases htext
  | ok r =>
    rw [hlabelled, hrest] at htext
    cases htext
    exact congrArg (label ++ ' ' :: ·) (eq_shown_of_textOf hrest)

/-- **A labelled text is shown as it is if and only if it is plain.** -/
theorem plainText_labelled_iff (h : IsLabel label) (text : List Char) :
    plainText (labelled s label text) = .ok (label ++ ' ' :: text) ↔ isPlain text = true := by
  constructor
  · intro ht
    obtain ⟨position, hshown⟩ := eq_of_plainText_labelled s h ht
    have htext : text = shown (piecesFrom position 0 text) :=
      List.cons_inj_right ' ' |>.1 (List.append_cancel_left hshown)
    exact (shown_eq_iff position text).1 htext.symm
  · intro hplain
    obtain ⟨position, hlabelled⟩ := textOf_labelled s h text
    rw [textOf_of_isText _ (isText_of_isPlain position hplain),
      (shown_eq_iff position text).2 hplain] at hlabelled
    refine plainText_eq_ok_iff.2 ⟨_, hlabelled, checkSpans_eq_ok _ fun sp hsp => ?_⟩
    rw [List.mem_singleton.1 hsp]
    exact s.check

end Labelled

end Settings.Terminal
