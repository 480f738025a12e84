import Settings.Text.Utf8

/-!
# Decoding what has been encoded

The decoder takes the octets that stand for a character one by one.  The leading octet fixes
how many follow and the range of the first of them, and that range is just wide enough for
the characters that begin so: this is what the two bounds of `exists_pending_three` and
`exists_pending_four` say.

## Main definitions

* `Utf8.encode` — the octets of a list of characters.

## Main results

* `Utf8.decodeFrom_encodeChar` — the decoder takes the octets of a character and no others.
* `Utf8.decode_encode` — **decoding undoes encoding.**
-/

namespace Settings.Text.Utf8

/-- The octets of characters. -/
def encode (cs : List Char) : List UInt8 := cs.flatMap String.utf8EncodeChar

theorem encode_cons (c : Char) (cs : List Char) :
    encode (c :: cs) = String.utf8EncodeChar c ++ encode cs := List.flatMap_cons

/-- The octets of a string are the ones it is kept as. -/
theorem encode_toList (s : String) : encode s.toList = s.toUTF8.data.toList := by
  rw [String.toUTF8, ← String.utf8Encode_toList, List.utf8Encode, List.data_toByteArray]
  rfl

/-! ### One octet -/

section Octet

variable {position : Nat} {octet : UInt8} {p : Pending}

theorem decodeFrom_ascii (rest : List UInt8) (h : octet.toNat < 0x80) :
    decodeFrom position none (octet :: rest)
      = (decodeFrom (position + 1) none rest).map (Char.ofNat octet.toNat :: ·) := by
  rw [decodeFrom, if_pos h]

theorem decodeFrom_leading (rest : List UInt8) (h : 0x80 ≤ octet.toNat)
    (hp : pending? position octet = some p) :
    decodeFrom position none (octet :: rest) = decodeFrom (position + 1) (some p) rest := by
  rw [decodeFrom, if_neg (Nat.not_lt.2 h), hp]

theorem decodeFrom_last (rest : List UInt8) (h : p.low ≤ octet.toNat ∧ octet.toNat ≤ p.high)
    (hdue : p.due = 1) :
    decodeFrom position (some p) (octet :: rest)
      = (decodeFrom (position + 1) none rest).map
          (Char.ofNat (p.bits * 0x40 + (octet.toNat - 0x80)) :: ·) := by
  rw [decodeFrom, if_neg (by omega)]
  dsimp only
  rw [if_pos hdue]

theorem decodeFrom_next (rest : List UInt8) (h : p.low ≤ octet.toNat ∧ octet.toNat ≤ p.high)
    {due : Nat} (hdue : p.due = due + 2) :
    decodeFrom position (some p) (octet :: rest)
      = decodeFrom (position + 1)
          (some ⟨p.start, p.octet, p.bits * 0x40 + (octet.toNat - 0x80), due + 1, 0x80, 0xBF⟩)
          rest := by
  rw [decodeFrom, if_neg (by omega)]
  dsimp only
  rw [if_neg (by omega), hdue]
  rfl

theorem pending_two (h : 0xC2 ≤ octet.toNat ∧ octet.toNat ≤ 0xDF) :
    pending? position octet = some ⟨position, octet, octet.toNat - 0xC0, 1, 0x80, 0xBF⟩ := by
  rw [pending?]
  rw [if_pos h]

/-- After the leading octet of three, the next one excludes overlong forms and surrogates. -/
theorem exists_pending_three (position : Nat) (octet : UInt8)
    (h : 0xE0 ≤ octet.toNat ∧ octet.toNat ≤ 0xEF) :
    ∃ low high, pending? position octet = some ⟨position, octet, octet.toNat - 0xE0, 2, low, high⟩ ∧
      ∀ x, 0x80 ≤ x → x ≤ 0xBF → (octet.toNat = 0xE0 → 0xA0 ≤ x) →
        (octet.toNat = 0xED → x ≤ 0x9F) → low ≤ x ∧ x ≤ high := by
  rw [pending?]
  rw [if_neg (by omega)]
  by_cases hfirst : octet.toNat = 0xE0
  · exact ⟨_, _, if_pos hfirst, fun x _ hx hlow _ => ⟨hlow hfirst, hx⟩⟩
  · rw [if_neg hfirst]
    by_cases hlast : octet.toNat = 0xED
    · exact ⟨_, _, if_pos hlast, fun x hx _ _ hhigh => ⟨hx, hhigh hlast⟩⟩
    · exact ⟨_, _, by rw [if_neg hlast, if_pos (by omega)], fun x hlow hhigh _ _ => ⟨hlow, hhigh⟩⟩

/-- After the leading octet of four, the next one excludes overlong forms and what lies above
U+10FFFF. -/
theorem exists_pending_four (position : Nat) (octet : UInt8)
    (h : 0xF0 ≤ octet.toNat ∧ octet.toNat ≤ 0xF4) :
    ∃ low high, pending? position octet = some ⟨position, octet, octet.toNat - 0xF0, 3, low, high⟩ ∧
      ∀ x, 0x80 ≤ x → x ≤ 0xBF → (octet.toNat = 0xF0 → 0x90 ≤ x) →
        (octet.toNat = 0xF4 → x ≤ 0x8F) → low ≤ x ∧ x ≤ high := by
  rw [pending?]
  rw [if_neg (by omega), if_neg (by omega), if_neg (by omega), if_neg (by omega)]
  by_cases hfirst : octet.toNat = 0xF0
  · exact ⟨_, _, if_pos hfirst, fun x _ hx hlow _ => ⟨hlow hfirst, hx⟩⟩
  · rw [if_neg hfirst]
    by_cases hlast : octet.toNat = 0xF4
    · exact ⟨_, _, by rw [if_neg (by omega), if_pos hlast],
        fun x hx _ _ hhigh => ⟨hx, hhigh hlast⟩⟩
    · exact ⟨_, _, if_pos (by omega), fun x hlow hhigh _ _ => ⟨hlow, hhigh⟩⟩

end Octet

/-! ### One character -/

theorem toNat_ofNat_of_lt {n : Nat} (h : n < 256) : (UInt8.ofNat n).toNat = n := by
  rw [UInt8.toNat_ofNat', Nat.mod_eq_of_lt h]

/-- The two octets of a code point. -/
theorem decodeFrom_two (position : Nat) (rest : List UInt8) {n : Nat}
    (h : 0x80 ≤ n ∧ n < 0x800) :
    decodeFrom position none (UInt8.ofNat (n / 64 % 32 + 192) :: UInt8.ofNat (n % 64 + 128) :: rest)
      = (decodeFrom (position + 2) none rest).map (Char.ofNat n :: ·) := by
  have h₁ : (UInt8.ofNat (n / 64 % 32 + 192)).toNat = n / 64 + 192 := by
    rw [toNat_ofNat_of_lt (by omega)]
    omega
  have h₂ : (UInt8.ofNat (n % 64 + 128)).toNat = n % 64 + 128 := toNat_ofNat_of_lt (by omega)
  have hbits : (n / 64 + 192 - 0xC0) * 0x40 + (n % 64 + 128 - 0x80) = n := by omega
  rw [decodeFrom_leading _ (by omega) (pending_two (by omega)), decodeFrom_last _ ?_ rfl, h₁, h₂]
  · dsimp only
    rw [hbits]
  · dsimp only
    omega

/-- The three octets of a code point that is no surrogate. -/
theorem decodeFrom_three (position : Nat) (rest : List UInt8) {n : Nat}
    (h : 0x800 ≤ n ∧ n < 0x10000) (hvalid : n < 0xD800 ∨ 0xDFFF < n) :
    decodeFrom position none (UInt8.ofNat (n / 4096 % 16 + 224) ::
        UInt8.ofNat (n / 64 % 64 + 128) :: UInt8.ofNat (n % 64 + 128) :: rest)
      = (decodeFrom (position + 3) none rest).map (Char.ofNat n :: ·) := by
  have h₁ : (UInt8.ofNat (n / 4096 % 16 + 224)).toNat = n / 4096 + 224 := by
    rw [toNat_ofNat_of_lt (by omega)]
    omega
  have h₂ : (UInt8.ofNat (n / 64 % 64 + 128)).toNat = n / 64 % 64 + 128 :=
    toNat_ofNat_of_lt (by omega)
  have h₃ : (UInt8.ofNat (n % 64 + 128)).toNat = n % 64 + 128 := toNat_ofNat_of_lt (by omega)
  obtain ⟨low, high, hp, hrange⟩ := exists_pending_three position
    (UInt8.ofNat (n / 4096 % 16 + 224)) (by omega)
  have hsecond := hrange (n / 64 % 64 + 128) (by omega) (by omega) (by omega) (by omega)
  have hbits : ((n / 4096 + 224 - 0xE0) * 0x40 + (n / 64 % 64 + 128 - 0x80)) * 0x40
      + (n % 64 + 128 - 0x80) = n := by omega
  rw [decodeFrom_leading _ (by omega) hp, decodeFrom_next _ (by rw [h₂]; exact hsecond) rfl,
    decodeFrom_last _ (by rw [h₃]; dsimp only; omega) rfl, h₁, h₂, h₃]
  dsimp only
  rw [hbits]

/-- The four octets of a code point. -/
theorem decodeFrom_four (position : Nat) (rest : List UInt8) {n : Nat}
    (h : 0x10000 ≤ n ∧ n < 0x110000) :
    decodeFrom position none (UInt8.ofNat (n / 262144 % 8 + 240) ::
        UInt8.ofNat (n / 4096 % 64 + 128) :: UInt8.ofNat (n / 64 % 64 + 128) ::
        UInt8.ofNat (n % 64 + 128) :: rest)
      = (decodeFrom (position + 4) none rest).map (Char.ofNat n :: ·) := by
  have h₁ : (UInt8.ofNat (n / 262144 % 8 + 240)).toNat = n / 262144 + 240 := by
    rw [toNat_ofNat_of_lt (by omega)]
    omega
  have h₂ : (UInt8.ofNat (n / 4096 % 64 + 128)).toNat = n / 4096 % 64 + 128 :=
    toNat_ofNat_of_lt (by omega)
  have h₃ : (UInt8.ofNat (n / 64 % 64 + 128)).toNat = n / 64 % 64 + 128 :=
    toNat_ofNat_of_lt (by omega)
  have h₄ : (UInt8.ofNat (n % 64 + 128)).toNat = n % 64 + 128 := toNat_ofNat_of_lt (by omega)
  obtain ⟨low, high, hp, hrange⟩ := exists_pending_four position
    (UInt8.ofNat (n / 262144 % 8 + 240)) (by omega)
  have hsecond := hrange (n / 4096 % 64 + 128) (by omega) (by omega) (by omega) (by omega)
  have hbits : (((n / 262144 + 240 - 0xF0) * 0x40 + (n / 4096 % 64 + 128 - 0x80)) * 0x40
      + (n / 64 % 64 + 128 - 0x80)) * 0x40 + (n % 64 + 128 - 0x80) = n := by omega
  rw [decodeFrom_leading _ (by omega) hp, decodeFrom_next _ (by rw [h₂]; exact hsecond) rfl,
    decodeFrom_next _ (by rw [h₃]; dsimp only; omega) rfl,
    decodeFrom_last _ (by rw [h₄]; dsimp only; omega) rfl, h₁, h₂, h₃, h₄]
  dsimp only
  rw [hbits]

/-- The decoder takes the octets of a character and no others. -/
theorem decodeFrom_encodeChar (position : Nat) (c : Char) (rest : List UInt8) :
    decodeFrom position none (String.utf8EncodeChar c ++ rest)
      = (decodeFrom (position + (String.utf8EncodeChar c).length) none rest).map (c :: ·) := by
  obtain ⟨n, hn⟩ : ∃ n, n = c.val.toNat := ⟨_, rfl⟩
  have hvalid : n < 0xD800 ∨ 0xDFFF < n ∧ n < 0x110000 := hn ▸ c.valid
  have hchar : Char.ofNat n = c := hn ▸ Char.ofNat_toNat c
  unfold String.utf8EncodeChar
  rw [← hn, ← hchar]
  dsimp only
  by_cases h₁ : n ≤ 127
  · rw [if_pos h₁]
    have hoctet : (UInt8.ofNat n).toNat = n := toNat_ofNat_of_lt (by omega)
    rw [List.singleton_append, decodeFrom_ascii rest (by omega), hoctet]
    rfl
  · rw [if_neg h₁]
    by_cases h₂ : n ≤ 2047
    · rw [if_pos h₂]
      exact decodeFrom_two position rest (by omega)
    · rw [if_neg h₂]
      by_cases h₃ : n ≤ 65535
      · rw [if_pos h₃]
        exact decodeFrom_three position rest (by omega) (by omega)
      · rw [if_neg h₃]
        exact decodeFrom_four position rest (by omega)

/-- **Decoding undoes encoding.** -/
theorem decode_encode (cs : List Char) : decode (encode cs) = .ok cs := by
  -- the position only shows in faults, so that the induction is for all of them
  have hfrom : ∀ position, decodeFrom position none (encode cs) = .ok cs := by
    induction cs with
    | nil => exact fun _ => rfl
    | cons c cs ih =>
      intro position
      rw [encode_cons, decodeFrom_encodeChar, ih]
      rfl
  exact hfrom 0

end Settings.Text.Utf8
