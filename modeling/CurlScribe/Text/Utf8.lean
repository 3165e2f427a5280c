/-
This file reads bytes as UTF-8 without ever failing. Bytes that belong to no character are
replaced: each longest stretch that could still have become a character, or else each
single byte, gives one replacement character, and reading goes on with the byte after it.
-/

namespace CurlScribe.Text

/-! ### Characters of several bytes -/

/-- The character that stands for bytes which are none. -/
def replacement : Char := '\ufffd'

/-- A character of which the first bytes are read: how many bytes are missing after the next one,
the bounds of the next one, and the number that the bits so far make up. -/
structure Pending where
  later : Nat
  least : Nat
  greatest : Nat
  value : Nat

/-- The character that a first byte above ASCII opens, if it can open one. The bounds of the second
byte leave out long forms, surrogates and numbers beyond the last code point. -/
def opened (byte : Nat) : Option Pending :=
  if byte < 0xc2 then none
  else if byte ≤ 0xdf then some ⟨0, 0x80, 0xbf, byte - 0xc0⟩
  else if byte = 0xe0 then some ⟨1, 0xa0, 0xbf, byte - 0xe0⟩
  else if byte = 0xed then some ⟨1, 0x80, 0x9f, byte - 0xe0⟩
  else if byte ≤ 0xef then some ⟨1, 0x80, 0xbf, byte - 0xe0⟩
  else if byte = 0xf0 then some ⟨2, 0x90, 0xbf, byte - 0xf0⟩
  else if byte ≤ 0xf3 then some ⟨2, 0x80, 0xbf, byte - 0xf0⟩
  else if byte = 0xf4 then some ⟨2, 0x80, 0x8f, byte - 0xf0⟩
  else none

/-- What a byte at the start of a character gives: the characters known by then, and the
character that it opens. -/
def openWith (byte : Nat) : List Char × Option Pending :=
  if byte < 0x80 then ([Char.ofNat byte], none)
  else
    match opened byte with
    | some pending => ([], some pending)
    | none => ([replacement], none)

/-- What the next byte of an open character gives. -/
def continueWith (pending : Pending) (byte : Nat) : List Char × Option Pending :=
  if pending.least ≤ byte ∧ byte ≤ pending.greatest then
    let value := pending.value * 64 + (byte - 0x80)
    match pending.later with
    | 0 => ([Char.ofNat value], none)
    | later + 1 => ([], some ⟨later, 0x80, 0xbf, value⟩)
  else
    let next := openWith byte
    (replacement :: next.1, next.2)

/-! ### Reading -/

/-- The characters of bytes, with a character possibly open before them. -/
def decodeAfter : Option Pending → List UInt8 → List Char
  | none, [] => []
  | some _, [] => [replacement]
  | none, byte :: rest =>
    let next := openWith byte.toNat
    next.1 ++ decodeAfter next.2 rest
  | some pending, byte :: rest =>
    let next := continueWith pending byte.toNat
    next.1 ++ decodeAfter next.2 rest

/-- The characters of bytes. -/
def decode (bytes : List UInt8) : List Char :=
  decodeAfter none bytes

/-- The bytes of characters. -/
def encode (characters : List Char) : List UInt8 :=
  characters.flatMap String.utf8EncodeChar

/-- Four characters of one to four bytes are read back; a lone first byte, a surrogate and a byte
that opens nothing are replaced. -/
example : decode (encode ['a', 'é', '€', '😀']) = ['a', 'é', '€', '😀'] ∧
    decode [0xe2, 0x82, 0x41, 0xed, 0xa0, 0x80, 0xff] =
      [replacement, 'A', replacement, replacement, replacement, replacement] := by
  decide +kernel

end CurlScribe.Text
