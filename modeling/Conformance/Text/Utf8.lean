/-!
# Encoded text

`decodePieces` reads bytes as UTF-8, one character or one malformed piece at a time: a piece is the
longest start of a well-formed sequence that the next byte does not continue, or one byte that
starts none. Strict decoding refuses the first piece, lossy decoding writes U+FFFD for each.
-/
namespace Conformance

abbrev Bytes := List UInt8

namespace Text

/-- A sequence that was begun: the bits read, the bytes that are owed, and the range of the next. -/
structure Pending where
  bits : Nat
  owed : Nat
  low : Nat := 0x80
  high : Nat := 0xBF

/-- What a byte begins: a character, a longer sequence, or nothing. -/
def begin? (b : Nat) : Option (Nat ⊕ Pending) :=
  if b < 0x80 then some (.inl b)
  else if b < 0xC2 then none
  else if b < 0xE0 then some (.inr { bits := b - 0xC0, owed := 1 })
  else if b < 0xF0 then
    some (.inr { bits := b - 0xE0, owed := 2, low := if b = 0xE0 then 0xA0 else 0x80,
                 high := if b = 0xED then 0x9F else 0xBF })
  else if b < 0xF5 then
    some (.inr { bits := b - 0xF0, owed := 3, low := if b = 0xF0 then 0x90 else 0x80,
                 high := if b = 0xF4 then 0x8F else 0xBF })
  else none

/-- The pieces read so far, last first, and the sequence under way. -/
structure Decoding where
  pieces : List (Option Char) := []
  pending : Option Pending := none

/-- A byte where no sequence is under way. -/
def Decoding.start (pieces : List (Option Char)) (b : UInt8) : Decoding :=
  match begin? b.toNat with
  | none => { pieces := none :: pieces }
  | some (.inl n) => { pieces := some (Char.ofNat n) :: pieces }
  | some (.inr p) => { pieces, pending := some p }

def Decoding.step (d : Decoding) (b : UInt8) : Decoding :=
  match d.pending with
  | none => .start d.pieces b
  | some p =>
    if p.low ≤ b.toNat ∧ b.toNat ≤ p.high then
      let bits := p.bits * 64 + (b.toNat - 0x80)
      if p.owed = 1 then { pieces := some (Char.ofNat bits) :: d.pieces }
      else { pieces := d.pieces, pending := some { bits, owed := p.owed - 1 } }
    else .start (none :: d.pieces) b

def Decoding.finish (d : Decoding) : List (Option Char) :=
  (match d.pending with
    | none => d.pieces
    | some _ => none :: d.pieces).reverse

/-- Characters and malformed pieces (`none`), in order. -/
def decodePieces (bytes : Bytes) : List (Option Char) :=
  (bytes.foldl Decoding.step {}).finish

/-- The text, if every piece is a character. -/
def decode? (bytes : Bytes) : Option String :=
  let pieces := decodePieces bytes
  if pieces.all Option.isSome then some (String.ofList (pieces.filterMap id)) else none

def replacement : Char := '\uFFFD'

def decodeLossyChars (bytes : Bytes) : List Char :=
  (decodePieces bytes).map (·.getD replacement)

def decodeLossy (bytes : Bytes) : String :=
  String.ofList (decodeLossyChars bytes)

def encode (s : String) : Bytes :=
  s.toUTF8.toList

end Text
end Conformance
