/-!
# Decoding UTF-8

Reads bytes as text, or says where they stop being text. A character is a lead byte and up to three
continuation bytes; the lead byte decides how many follow and narrows the range of the first of
them, which rules out overlong forms, surrogates and values past the last code point.

**The error names the first byte of the first bad character**, and how many bytes of it were still
plausible. A character that is cut off by the end of the input has no such length.
-/

namespace SplitBoard.Text

/-- Where a byte string stops being text. -/
structure Malformed where
  /-- Position of the first byte that belongs to no character. -/
  position : Nat
  /-- Number of bytes that can never become a character, or nothing if the input just ends early. -/
  length : Option Nat
  deriving DecidableEq

/-- The wording of a decoding error. -/
def Malformed.message (m : Malformed) : String :=
  match m.length with
  | some n => s!"invalid utf-8 sequence of {n} bytes from index {m.position}"
  | none => s!"incomplete utf-8 byte sequence from index {m.position}"

namespace Utf8

/-- A character whose bytes have not all arrived. -/
structure Pending where
  /-- Position of the lead byte. -/
  start : Nat
  /-- Bytes seen so far. -/
  seen : Nat
  /-- Continuation bytes still to come after the next one. -/
  missing : Nat
  /-- The range that the next byte must lie in. -/
  low : UInt8
  high : UInt8
  /-- The bits collected so far. -/
  value : Nat

/-- What a lead byte above the ASCII range announces. -/
def Pending.ofLead? (start : Nat) (lead : UInt8) : Option Pending :=
  if 0xC2 ≤ lead ∧ lead ≤ 0xDF then some ⟨start, 1, 0, 0x80, 0xBF, lead.toNat % 32⟩
  else if lead = 0xE0 then some ⟨start, 1, 1, 0xA0, 0xBF, 0⟩
  else if lead = 0xED then some ⟨start, 1, 1, 0x80, 0x9F, lead.toNat % 16⟩
  else if 0xE1 ≤ lead ∧ lead ≤ 0xEF then some ⟨start, 1, 1, 0x80, 0xBF, lead.toNat % 16⟩
  else if lead = 0xF0 then some ⟨start, 1, 2, 0x90, 0xBF, 0⟩
  else if 0xF1 ≤ lead ∧ lead ≤ 0xF3 then some ⟨start, 1, 2, 0x80, 0xBF, lead.toNat % 8⟩
  else if lead = 0xF4 then some ⟨start, 1, 2, 0x80, 0x8F, lead.toNat % 8⟩
  else none

/-- Decode the bytes from `position` on, with the characters read before them newest first. -/
def decodeOnto (text : List Char) (position : Nat) :
    Option Pending → List UInt8 → Except Malformed (List Char)
  | none, [] => .ok text.reverse
  | some p, [] => .error ⟨p.start, none⟩
  | none, byte :: rest =>
    if byte < 0x80 then
      decodeOnto (Char.ofNat byte.toNat :: text) (position + 1) none rest
    else
      match Pending.ofLead? position byte with
      | some p => decodeOnto text (position + 1) (some p) rest
      | none => .error ⟨position, some 1⟩
  | some p, byte :: rest =>
    if p.low ≤ byte ∧ byte ≤ p.high then
      let value := p.value * 64 + byte.toNat % 64
      match p.missing with
      | 0 => decodeOnto (Char.ofNat value :: text) (position + 1) none rest
      | missing + 1 =>
        decodeOnto text (position + 1)
          (some ⟨p.start, p.seen + 1, missing, 0x80, 0xBF, value⟩) rest
    else .error ⟨p.start, some p.seen⟩

end Utf8

/-- The text that the bytes encode. -/
def decodeUtf8 (bytes : List UInt8) : Except Malformed (List Char) :=
  Utf8.decodeOnto [] 0 none bytes

/-- The bytes of a text. -/
def encodeUtf8 (text : List Char) : List UInt8 :=
  (String.ofList text).toUTF8.toList

end SplitBoard.Text
