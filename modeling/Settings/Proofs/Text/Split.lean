import Settings.Text.Split

/-!
# Parts of a text

No part of a text has the separator in it, and parts without the separator are the parts of
their text.  So a text and its parts are two views of one thing; where two texts are put together
with a separator between them, the parts of the second one follow those of the first.

## Main results

* `splitOn_append_cons` — the parts of two texts with the separator between them.
* `splitOn_joinWith` — **splitting undoes joining.**
* `not_mem_of_mem_splitOn` — no part has the separator in it.
-/

namespace Settings.Text

variable {sep : Char} {cs part : List Char}

/-! ### Splitting -/

theorem splitOn_cons_self (sep : Char) (cs : List Char) :
    splitOn sep (sep :: cs) = [] :: splitOn sep cs := by
  rw [splitOn, if_pos rfl]

/-- A character that is no separator goes to the first part. -/
theorem splitOn_cons_of_ne {c : Char} (h : c ≠ sep) (cs : List Char) :
    ∃ part parts, splitOn sep cs = part :: parts ∧
      splitOn sep (c :: cs) = (c :: part) :: parts := by
  cases hparts : splitOn sep cs with
  | nil => exact absurd hparts (splitOn_ne_nil sep cs)
  | cons part parts =>
    refine ⟨part, parts, rfl, ?_⟩
    simp only [splitOn, if_neg h, hparts]

/-- **The parts of two texts with the separator between them** are those of the one and then
those of the other. -/
theorem splitOn_append_cons (sep : Char) (cs ds : List Char) :
    splitOn sep (cs ++ sep :: ds) = splitOn sep cs ++ splitOn sep ds := by
  induction cs with
  | nil => exact splitOn_cons_self sep ds
  | cons c cs ih =>
    by_cases h : c = sep
    · subst h
      rw [List.cons_append, splitOn_cons_self, splitOn_cons_self, ih, List.cons_append]
    · obtain ⟨part, parts, hparts, hcons⟩ := splitOn_cons_of_ne h cs
      obtain ⟨part', parts', hparts', hcons'⟩ := splitOn_cons_of_ne h (cs ++ sep :: ds)
      rw [ih, hparts, List.cons_append] at hparts'
      obtain ⟨rfl, rfl⟩ := List.cons.inj hparts'
      rw [List.cons_append, hcons', hcons, List.cons_append]

/-- A text without the separator is its own only part. -/
theorem splitOn_of_not_mem (h : sep ∉ cs) : splitOn sep cs = [cs] := by
  induction cs with
  | nil => rfl
  | cons c cs ih =>
    rw [List.mem_cons, not_or] at h
    simp only [splitOn, if_neg (Ne.symm h.1), ih h.2]

/-! ### Parts -/

/-- No part has the separator in it, nor any character that the text does not have. -/
theorem of_mem_splitOn (h : part ∈ splitOn sep cs) : ∀ c ∈ part, c ∈ cs ∧ c ≠ sep := by
  induction cs generalizing part with
  | nil =>
    intro c hc
    rw [splitOn_nil, List.mem_singleton] at h
    rw [h] at hc
    exact absurd hc List.not_mem_nil
  | cons d cs ih =>
    intro c hc
    by_cases hd : d = sep
    · rw [hd, splitOn_cons_self, List.mem_cons] at h
      rcases h with rfl | h
      · exact absurd hc List.not_mem_nil
      · exact ⟨List.mem_cons_of_mem d (ih h c hc).1, (ih h c hc).2⟩
    · obtain ⟨first, parts, hparts, hcons⟩ := splitOn_cons_of_ne hd cs
      rw [hparts] at ih
      rw [hcons, List.mem_cons] at h
      rcases h with rfl | h
      · rcases List.mem_cons.1 hc with rfl | hc
        · exact ⟨List.mem_cons_self, hd⟩
        · have hfirst := ih List.mem_cons_self c hc
          exact ⟨List.mem_cons_of_mem d hfirst.1, hfirst.2⟩
      · have hrest := ih (List.mem_cons_of_mem first h) c hc
        exact ⟨List.mem_cons_of_mem d hrest.1, hrest.2⟩

theorem not_mem_of_mem_splitOn (h : part ∈ splitOn sep cs) : sep ∉ part := fun hsep =>
  (of_mem_splitOn h sep hsep).2 rfl

/-- The characters of joined parts are theirs, and the separator. -/
theorem mem_joinWith {parts : List (List Char)} {c : Char} (h : c ∈ joinWith sep parts) :
    c = sep ∨ ∃ part ∈ parts, c ∈ part := by
  induction parts with
  | nil => exact absurd h List.not_mem_nil
  | cons part parts ih =>
    by_cases hparts : parts = []
    · subst hparts
      exact .inr ⟨part, List.mem_singleton_self part, h⟩
    · rw [joinWith_cons sep part hparts, List.mem_append, List.mem_cons] at h
      rcases h with h | rfl | h
      · exact .inr ⟨part, List.mem_cons_self, h⟩
      · exact .inl rfl
      · exact (ih h).imp_right fun ⟨p, hp, hc⟩ => ⟨p, List.mem_cons_of_mem part hp, hc⟩

/-- **Splitting undoes joining** if no part has the separator in it. -/
theorem splitOn_joinWith {parts : List (List Char)} (hne : parts ≠ [])
    (h : ∀ part ∈ parts, sep ∉ part) : splitOn sep (joinWith sep parts) = parts := by
  induction parts with
  | nil => exact absurd rfl hne
  | cons part parts ih =>
    have hpart : splitOn sep part = [part] := splitOn_of_not_mem (h part List.mem_cons_self)
    by_cases hparts : parts = []
    · rw [hparts]
      exact hpart
    · rw [joinWith_cons sep part hparts, splitOn_append_cons, hpart,
        ih hparts fun p hp => h p (List.mem_cons_of_mem part hp)]
      rfl

end Settings.Text
