/-
  ConnPool.Text.Utf8

  Reading bytes as UTF-8 when they may not be.  Whatever can be read is kept,
  and each maximal part that cannot (the longest start of a character that
  some text could have, or else a single byte) becomes one U+FFFD.

  The reader is a machine that takes one byte at a time: it is between
  characters, or inside one, with bounds on the byte that may come next.
-/

namespace ConnPool
namespace Text

/-- Where a reader stands inside a character: the bits so far, how many bytes
    are missing after the next, and what the next byte may be. -/
structure PartialChar where
  bits : Nat
  missing : Nat
  low : UInt8 := 0x80
  high : UInt8 := 0xBF

/-- What stands for a part that cannot be read. -/
def replacement : Char := '\uFFFD'

/-- What a byte between characters means: a character, the start of one, or
    nothing that can be read. -/
def beginChar (byte : UInt8) : List Char × Option PartialChar :=
  let b := byte.toNat
  if b < 0x80 then ([Char.ofNat b], none)
  else if b < 0xC2 then ([replacement], none)
  else if b < 0xE0 then ([], some { bits := b - 0xC0, missing := 0 })
  else if b = 0xE0 then ([], some { bits := 0, missing := 1, low := 0xA0 })
  else if b = 0xED then ([], some { bits := 0xD, missing := 1, high := 0x9F })
  else if b < 0xF0 then ([], some { bits := b - 0xE0, missing := 1 })
  else if b = 0xF0 then ([], some { bits := 0, missing := 2, low := 0x90 })
  else if b = 0xF4 then ([], some { bits := 4, missing := 2, high := 0x8F })
  else if b < 0xF4 then ([], some { bits := b - 0xF0, missing := 2 })
  else ([replacement], none)

/-- Takes one byte: the characters that are now complete, and where the reader
    stands. -/
def takeByte (state : Option PartialChar) (byte : UInt8) : List Char × Option PartialChar :=
  match state with
  | none => beginChar byte
  | some part =>
    if part.low ≤ byte ∧ byte ≤ part.high then
      let bits := part.bits * 64 + (byte.toNat - 0x80)
      match part.missing with
      | 0 => ([Char.ofNat bits], none)
      | missing + 1 => ([], some { bits, missing })
    else
      let (chars, state) := beginChar byte
      (replacement :: chars, state)

/-- Reads bytes from where the reader stands. -/
def readLossyFrom (state : Option PartialChar) : List UInt8 → List Char
  | [] => if state.isSome then [replacement] else []
  | byte :: rest =>
    let (chars, state) := takeByte state byte
    chars ++ readLossyFrom state rest

/-- The text that bytes hold, as far as they can be read. -/
def readLossy (bytes : List UInt8) : List Char :=
  readLossyFrom none bytes

/-- A character that breaks off is one part, and what follows it is read. -/
example : readLossy [0x61, 0xE2, 0x82, 0x62] = ['a', replacement, 'b'] := by decide

end Text
end ConnPool
