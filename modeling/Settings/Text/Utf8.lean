import Settings.Number.Decimal

/-!
# Strict decoding of UTF-8

The decoder goes through the octets once.  A leading octet fixes how many
continuation octets follow it and the range of the first of them, which excludes
overlong forms, surrogates and code points above U+10FFFF; the others may be any
octet from 0x80 to 0xBF.  A fault names the sequence that is not a character: its
first octet, and the last octet up to which it could still have become one.

## Main definitions

* `Utf8.Pending` — a character whose continuation octets have not all been read.
* `Utf8.pending?` — what a leading octet promises.
* `Utf8.decode` — the characters of a string of octets, or the first fault.
-/

namespace Settings.Text.Utf8

open Number

/-- Why a sequence of octets is no character. -/
inductive Reason where
  /-- No character starts with this octet. -/
  | invalidStart
  /-- The octet after the sequence does not continue it. -/
  | invalidContinuation
  /-- The octets end inside a character. -/
  | unexpectedEnd
  deriving DecidableEq, Repr, Inhabited

/-- A sequence of octets that is no character. -/
structure Fault where
  /-- The position of its first octet. -/
  start : Nat
  /-- The position of its last octet. -/
  last : Nat
  /-- Its first octet. -/
  octet : UInt8
  /-- What is wrong with it. -/
  reason : Reason
  deriving DecidableEq, Repr, Inhabited

/-- The wording of a reason. -/
def Reason.message : Reason → String
  | .invalidStart => "invalid start byte"
  | .invalidContinuation => "invalid continuation byte"
  | .unexpectedEnd => "unexpected end of data"

/-- The wording of a fault. -/
def Fault.message (f : Fault) : String :=
  let place :=
    if f.start = f.last then
      s!"byte 0x{String.ofList (hexPadded 2 f.octet.toNat)} in position {numeral f.start}"
    else s!"bytes in position {numeral f.start}-{numeral f.last}"
  s!"'utf-8' codec can't decode {place}: {f.reason.message}"

/-! ### Decoding -/

/-- A character whose continuation octets have not all been read. -/
structure Pending where
  /-- The position of its leading octet. -/
  start : Nat
  /-- Its leading octet. -/
  octet : UInt8
  /-- The bits read so far. -/
  bits : Nat
  /-- The number of continuation octets that are still due. -/
  due : Nat
  /-- The least value of the next octet. -/
  low : Nat
  /-- The greatest value of the next octet. -/
  high : Nat
  deriving DecidableEq, Repr, Inhabited

/-- What a leading octet beyond ASCII at a position promises. -/
def pending? (position : Nat) (octet : UInt8) : Option Pending :=
  let b := octet.toNat
  if 0xC2 ≤ b ∧ b ≤ 0xDF then some ⟨position, octet, b - 0xC0, 1, 0x80, 0xBF⟩
  else if b = 0xE0 then some ⟨position, octet, b - 0xE0, 2, 0xA0, 0xBF⟩
  else if b = 0xED then some ⟨position, octet, b - 0xE0, 2, 0x80, 0x9F⟩
  else if 0xE1 ≤ b ∧ b ≤ 0xEF then some ⟨position, octet, b - 0xE0, 2, 0x80, 0xBF⟩
  else if b = 0xF0 then some ⟨position, octet, b - 0xF0, 3, 0x90, 0xBF⟩
  else if 0xF1 ≤ b ∧ b ≤ 0xF3 then some ⟨position, octet, b - 0xF0, 3, 0x80, 0xBF⟩
  else if b = 0xF4 then some ⟨position, octet, b - 0xF0, 3, 0x80, 0x8F⟩
  else none

/-- The characters of the octets from a position on, after the pending octets. -/
def decodeFrom (position : Nat) : Option Pending → List UInt8 → Except Fault (List Char)
  | none, [] => .ok []
  | some p, [] => .error ⟨p.start, position - 1, p.octet, .unexpectedEnd⟩
  | none, octet :: rest =>
    if octet.toNat < 0x80 then
      (decodeFrom (position + 1) none rest).map (Char.ofNat octet.toNat :: ·)
    else match pending? position octet with
      | none => .error ⟨position, position, octet, .invalidStart⟩
      | some p => decodeFrom (position + 1) (some p) rest
  | some p, octet :: rest =>
    if octet.toNat < p.low ∨ p.high < octet.toNat then
      .error ⟨p.start, position - 1, p.octet, .invalidContinuation⟩
    else
      let bits := p.bits * 0x40 + (octet.toNat - 0x80)
      if p.due = 1 then (decodeFrom (position + 1) none rest).map (Char.ofNat bits :: ·)
      else decodeFrom (position + 1) (some ⟨p.start, p.octet, bits, p.due - 1, 0x80, 0xBF⟩) rest

/-- The characters of a string of octets, or the first fault. -/
def decode (octets : List UInt8) : Except Fault (List Char) := decodeFrom 0 none octets

@[simp] theorem decode_nil : decode [] = .ok [] := rfl

end Settings.Text.Utf8
