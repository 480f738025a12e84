import Settings.Proofs.Text.Utf8

/-!
# Where decoding stops

Octets are well-formed if they stand for characters.  The decoder reads a string of octets to its
end if it is well-formed, and otherwise stops at the first octet after the characters at its
start.  Between two octets of a character the decoder keeps the bits read so far and the range of
the next octet; the invariant is that whatever octets follow within the ranges, they complete the
octets read to those of a character.  So a character that is accepted is one that was encoded, and
one that is not accepted leaves the place where it starts.

## Main definitions

* `Utf8.WellFormed` — the octets stand for characters.
* `Utf8.WholeUpTo` — the longest stretch of whole characters at the start of some octets.
* `Utf8.Completes`, `Utf8.Reads` — the invariant between two octets.
* `Utf8.Explains` — what an outcome of the decoder says of the octets.

## Main results

* `Utf8.explains_decodeFrom` — the decoder says what is there, wherever it stands.
* `Utf8.decode_eq_ok_iff` — **the decoder accepts the octets of characters, and no others.**
* `Utf8.wholeUpTo_of_decode_error` — **a fault starts where the whole characters end.**
-/

namespace Settings.Text.Utf8

/-- The octets stand for characters. -/
def WellFormed (octets : List UInt8) : Prop := ∃ cs, encode cs = octets

/-- The first `n` octets stand for characters, and no longer stretch at the start does. -/
structure WholeUpTo (octets : List UInt8) (n : Nat) : Prop where
  /-- The stretch stands for characters. -/
  whole : ∃ cs, encode cs <+: octets ∧ (encode cs).length = n
  /-- No longer one does. -/
  longest : ∀ cs, encode cs <+: octets → (encode cs).length ≤ n

/-- The octets that the core library calls valid are the well-formed ones. -/
theorem wellFormed_iff_isValidUTF8 (octets : List UInt8) :
    WellFormed octets ↔ octets.toByteArray.IsValidUTF8 := by
  have hbytes : ∀ cs, cs.utf8Encode = (encode cs).toByteArray := fun _ => rfl
  constructor
  · rintro ⟨cs, rfl⟩
    exact ⟨cs, (hbytes cs).symm⟩
  · rintro ⟨cs, hcs⟩
    refine ⟨cs, ?_⟩
    have hdata := congrArg (·.data.toList) (hcs.trans (hbytes cs))
    simpa only [List.data_toByteArray] using hdata.symm

/-! ### Octets of one character -/

/-- After some octets, with the bits that they hold, `due` more octets complete those of a
character, whichever they are: the first one from `low` to `high`, the others from 0x80 to
0xBF. -/
def Completes (seen : List UInt8) : Nat → (bits low high : Nat) → Prop
  | 0, bits, _, _ => String.utf8EncodeChar (Char.ofNat bits) = seen
  | due + 1, bits, low, high => ∀ octet : UInt8, low ≤ octet.toNat → octet.toNat ≤ high →
      Completes (seen ++ [octet]) due (bits * 0x40 + (octet.toNat - 0x80)) 0x80 0xBF

theorem ofNat_eq_of_toNat_eq {n : Nat} (octet : UInt8) (h : octet.toNat = n) :
    UInt8.ofNat n = octet := by
  rw [← h, UInt8.ofNat_toNat]

/-- The octets of a code point, if it is one of a character. -/
theorem encodeChar_ofNat {n : Nat} (h : n < 0xD800 ∨ 0xDFFF < n ∧ n < 0x110000) :
    String.utf8EncodeChar (Char.ofNat n) =
      if n ≤ 127 then [UInt8.ofNat n]
      else if n ≤ 2047 then [UInt8.ofNat (n / 64 % 32 + 192), UInt8.ofNat (n % 64 + 128)]
      else if n ≤ 65535 then
        [UInt8.ofNat (n / 4096 % 16 + 224), UInt8.ofNat (n / 64 % 64 + 128),
          UInt8.ofNat (n % 64 + 128)]
      else
        [UInt8.ofNat (n / 262144 % 8 + 240), UInt8.ofNat (n / 4096 % 64 + 128),
          UInt8.ofNat (n / 64 % 64 + 128), UInt8.ofNat (n % 64 + 128)] := by
  have hval : (Char.ofNat n).val.toNat = n := by
    rw [Char.ofNat, dif_pos h]
    rfl
  rw [String.utf8EncodeChar, hval]

section Row

variable {octet : UInt8}

theorem encodeChar_ascii (h : octet.toNat < 0x80) :
    String.utf8EncodeChar (Char.ofNat octet.toNat) = [octet] := by
  rw [encodeChar_ofNat (by omega), if_pos (by omega), UInt8.ofNat_toNat]

theorem completes_two (h : 0xC2 ≤ octet.toNat ∧ octet.toNat ≤ 0xDF) :
    Completes [octet] 1 (octet.toNat - 0xC0) 0x80 0xBF := by
  intro second hlow hhigh
  show String.utf8EncodeChar _ = [octet, second]
  rw [encodeChar_ofNat (by omega), if_neg (by omega), if_pos (by omega)]
  rw [ofNat_eq_of_toNat_eq octet (by omega),
    ofNat_eq_of_toNat_eq second (by omega)]

/-- Three octets stand for a character if the second one makes the form neither overlong nor a
surrogate. -/
theorem completes_three (low high : Nat) (h : 0xE0 ≤ octet.toNat ∧ octet.toNat ≤ 0xEF)
    (hlow : 0x80 ≤ low) (hhigh : high ≤ 0xBF) (hlong : octet.toNat = 0xE0 → 0xA0 ≤ low)
    (hsurrogate : octet.toNat = 0xED → high ≤ 0x9F) :
    Completes [octet] 2 (octet.toNat - 0xE0) low high := by
  intro second h₂ h₂' third h₃ h₃'
  show String.utf8EncodeChar _ = [octet, second, third]
  rw [encodeChar_ofNat (by omega), if_neg (by omega), if_neg (by omega), if_pos (by omega)]
  rw [ofNat_eq_of_toNat_eq octet (by omega),
    ofNat_eq_of_toNat_eq second (by omega),
    ofNat_eq_of_toNat_eq third (by omega)]

/-- Four octets stand for a character if the second one makes the form neither overlong nor one
of more than U+10FFFF. -/
theorem completes_four (low high : Nat) (h : 0xF0 ≤ octet.toNat ∧ octet.toNat ≤ 0xF4)
    (hlow : 0x80 ≤ low) (hhigh : high ≤ 0xBF) (hlong : octet.toNat = 0xF0 → 0x90 ≤ low)
    (hlarge : octet.toNat = 0xF4 → high ≤ 0x8F) :
    Completes [octet] 3 (octet.toNat - 0xF0) low high := by
  intro second h₂ h₂' third h₃ h₃' fourth h₄ h₄'
  show String.utf8EncodeChar _ = [octet, second, third, fourth]
  rw [encodeChar_ofNat (by omega), if_neg (by omega), if_neg (by omega), if_neg (by omega)]
  rw [ofNat_eq_of_toNat_eq octet (by omega),
    ofNat_eq_of_toNat_eq second (by omega),
    ofNat_eq_of_toNat_eq third (by omega),
    ofNat_eq_of_toNat_eq fourth (by omega)]

/-- What a leading octet promises completes it to a character. -/
theorem completes_pending {position : Nat} {p : Pending} (hp : pending? position octet = some p) :
    p.start = position ∧ 0 < p.due ∧ Completes [octet] p.due p.bits p.low p.high := by
  unfold pending? at hp
  dsimp only at hp
  split at hp
  · cases hp
    exact ⟨rfl, Nat.succ_pos _, completes_two ‹_›⟩
  split at hp
  · cases hp
    exact ⟨rfl, Nat.succ_pos _, completes_three 0xA0 0xBF (by omega) (by omega) (by omega)
      (by omega) (by omega)⟩
  split at hp
  · cases hp
    exact ⟨rfl, Nat.succ_pos _, completes_three 0x80 0x9F (by omega) (by omega) (by omega)
      (by omega) (by omega)⟩
  split at hp
  · cases hp
    exact ⟨rfl, Nat.succ_pos _, completes_three 0x80 0xBF (by omega) (by omega) (by omega)
      (by omega) (by omega)⟩
  split at hp
  · cases hp
    exact ⟨rfl, Nat.succ_pos _, completes_four 0x90 0xBF (by omega) (by omega) (by omega)
      (by omega) (by omega)⟩
  split at hp
  · cases hp
    exact ⟨rfl, Nat.succ_pos _, completes_four 0x80 0xBF (by omega) (by omega) (by omega)
      (by omega) (by omega)⟩
  split at hp
  · cases hp
    exact ⟨rfl, Nat.succ_pos _, completes_four 0x80 0x8F (by omega) (by omega) (by omega)
      (by omega) (by omega)⟩
  · cases hp

end Row

/-! ### Outcomes -/

/-- The decoder stands at a position and has read these octets of a character: none, or some that
what it expects completes. -/
def Reads (position : Nat) (seen : List UInt8) : Option Pending → Prop
  | none => seen = []
  | some p => p.start + seen.length = position ∧ 0 < p.due ∧
      Completes seen p.due p.bits p.low p.high

/-- What an outcome says of the octets after a position, some of which have been read: either the
characters are those of the octets, or the fault starts after whole characters. -/
def Explains (position : Nat) (seen octets : List UInt8) : Except Fault (List Char) → Prop
  | .ok cs => encode cs = seen ++ octets
  | .error f => ∃ cs, encode cs <+: seen ++ octets ∧
      f.start + seen.length = position + (encode cs).length

namespace Explains

variable {position : Nat} {seen rest : List UInt8} {octet : UInt8} {r : Except Fault (List Char)}

/-- A fault that starts where the octets begin explains them. -/
theorem here {f : Fault} (h : f.start + seen.length = position) :
    Explains position seen rest (.error f) := by
  refine ⟨[], List.nil_prefix, ?_⟩
  rw [h]
  rfl

/-- What explains the octets after one more has been read explains them before. -/
theorem unread (h : Explains (position + 1) (seen ++ [octet]) rest r) :
    Explains position seen (octet :: rest) r := by
  have hoctets : seen ++ [octet] ++ rest = seen ++ octet :: rest := by
    rw [List.append_assoc, List.singleton_append]
  cases r with
  | ok cs => exact h.trans hoctets
  | error f =>
    obtain ⟨cs, hprefix, hstart⟩ := h
    rw [List.length_append, List.length_singleton] at hstart
    exact ⟨cs, hoctets ▸ hprefix, by omega⟩

/-- The last octet of a character comes before what explains the octets after it. -/
theorem cons {c : Char} (h : Explains (position + 1) [] rest r)
    (hc : String.utf8EncodeChar c = seen ++ [octet]) :
    Explains position seen (octet :: rest) (r.map (c :: ·)) := by
  have hoctets : String.utf8EncodeChar c ++ rest = seen ++ octet :: rest := by
    rw [hc, List.append_assoc, List.singleton_append]
  cases r with
  | ok cs =>
    obtain rfl : encode cs = rest := h
    exact (encode_cons c cs).trans hoctets
  | error f =>
    obtain ⟨cs, hprefix, hstart⟩ := h
    refine ⟨c :: cs, ?_, ?_⟩
    · rw [encode_cons, ← hoctets]
      exact (List.prefix_append_right_inj _).2 hprefix
    · rw [encode_cons, hc, List.length_append, List.length_append, List.length_singleton]
      rw [List.length_nil] at hstart
      omega

end Explains

/-- **The decoder says what is there**, wherever it stands. -/
theorem explains_decodeFrom (position : Nat) (state : Option Pending) (octets seen : List UInt8)
    (h : Reads position seen state) :
    Explains position seen octets (decodeFrom position state octets) := by
  fun_induction decodeFrom position state octets generalizing seen with
  | case1 position =>
    obtain rfl : seen = [] := h
    rfl
  | case2 position p => exact .here h.1
  | case3 position octet rest hascii ih =>
    obtain rfl : seen = [] := h
    exact (ih [] rfl).cons (encodeChar_ascii hascii)
  | case4 position octet rest _ _ =>
    obtain rfl : seen = [] := h
    exact .here rfl
  | case5 position octet rest _ p hp ih =>
    obtain rfl : seen = [] := h
    obtain ⟨hstart, hdue, hcompletes⟩ := completes_pending hp
    exact (ih [octet] ⟨by rw [hstart]; rfl, hdue, hcompletes⟩).unread
  | case6 position p octet rest hout => exact .here h.1
  | case7 position p octet rest hin _ hdue ih =>
    obtain ⟨-, -, hcompletes⟩ := h
    rw [hdue] at hcompletes
    exact (ih [] rfl).cons (hcompletes octet (by omega) (by omega))
  | case8 position p octet rest hin bits hdue ih =>
    obtain ⟨hstart, hpos, hcompletes⟩ := h
    obtain ⟨due, hmore⟩ : ∃ due, p.due = due + 1 := ⟨p.due - 1, by omega⟩
    rw [hmore] at hcompletes
    refine (ih (seen ++ [octet]) ⟨?_, by dsimp only; omega, ?_⟩).unread
    · rw [List.length_append, List.length_singleton, ← hstart, Nat.add_assoc]
    · dsimp only
      rw [hmore, Nat.add_sub_cancel]
      exact hcompletes octet (by omega) (by omega)

/-! ### The whole text -/

/-- The decoder takes whole characters and goes on after them. -/
theorem decodeFrom_encode_append (position : Nat) (cs : List Char) (rest : List UInt8) :
    decodeFrom position none (encode cs ++ rest)
      = (decodeFrom (position + (encode cs).length) none rest).map (cs ++ ·) := by
  induction cs generalizing position with
  | nil =>
    show decodeFrom position none rest = (decodeFrom position none rest).map (fun ds => ds)
    cases decodeFrom position none rest <;> rfl
  | cons c cs ih =>
    rw [encode_cons, List.append_assoc, decodeFrom_encodeChar, ih, List.length_append,
      Nat.add_assoc]
    cases decodeFrom _ none rest <;> rfl

/-- **The decoder accepts the octets of characters, and no others.** -/
theorem decode_eq_ok_iff {octets : List UInt8} {cs : List Char} :
    decode octets = .ok cs ↔ encode cs = octets := by
  constructor
  · intro h
    have hexplains := explains_decodeFrom 0 none octets [] rfl
    rw [← decode, h] at hexplains
    exact hexplains
  · rintro rfl
    exact decode_encode cs

/-- Octets are decoded, or they are not well-formed and a fault is found. -/
theorem wellFormed_or_error (octets : List UInt8) :
    WellFormed octets ∨ ¬ WellFormed octets ∧ ∃ f, decode octets = .error f := by
  cases h : decode octets with
  | ok cs => exact .inl ⟨cs, decode_eq_ok_iff.1 h⟩
  | error f =>
    refine .inr ⟨?_, f, rfl⟩
    rintro ⟨cs, hcs⟩
    rw [decode_eq_ok_iff.2 hcs] at h
    cases h

/-- **A fault starts where the whole characters end.** -/
theorem wholeUpTo_of_decode_error {octets : List UInt8} {f : Fault}
    (h : decode octets = .error f) : WholeUpTo octets f.start := by
  refine ⟨?_, fun cs hcs => ?_⟩
  · have hexplains := explains_decodeFrom 0 none octets [] rfl
    rw [← decode, h] at hexplains
    obtain ⟨cs, hprefix, hstart⟩ := hexplains
    exact ⟨cs, hprefix, by simpa using hstart.symm⟩
  · -- the fault is found after the characters, and no fault starts before the place of reading
    obtain ⟨rest, rfl⟩ := hcs
    rw [decode, decodeFrom_encode_append] at h
    have hexplains := explains_decodeFrom (0 + (encode cs).length) none rest [] rfl
    cases hrest : decodeFrom (0 + (encode cs).length) none rest with
    | ok ds =>
      rw [hrest] at h
      cases h
    | error f' =>
      rw [hrest] at h hexplains
      obtain rfl : f' = f := Except.error.inj h
      obtain ⟨ds, -, hstart⟩ := hexplains
      rw [List.length_nil] at hstart
      omega

/-- An overlong form, a surrogate, a code point above U+10FFFF and a character that breaks off. -/
example :
    decode [0x61, 0xC0, 0x80] = .error ⟨1, 1, 0xC0, .invalidStart⟩ ∧
    decode [0x61, 0xED, 0xA0, 0x80] = .error ⟨1, 1, 0xED, .invalidContinuation⟩ ∧
    decode [0x61, 0xF4, 0x90, 0x80, 0x80] = .error ⟨1, 1, 0xF4, .invalidContinuation⟩ ∧
    decode [0x61, 0xE2, 0x82] = .error ⟨1, 2, 0xE2, .unexpectedEnd⟩ := ⟨rfl, rfl, rfl, rfl⟩

end Settings.Text.Utf8
