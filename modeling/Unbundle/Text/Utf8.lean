-- SUMMARY: Bytes as UTF-8 text: where they fail to be one, and the text they make anyway.

/-!
# UTF-8

Bytes are cut into characters and faults. A fault is the longest start of a character that does not go
on as one; at the end of the bytes the rest of a character may be missing.
-/

namespace Unbundle.Text.Utf8

/-- A part of some bytes. -/
inductive Piece where
  | char (c : Char)
  /-- Bytes that make no character. -/
  | bad (width : Nat)
  /-- The start of a character at the end of the bytes. -/
  | cut (width : Nat)
deriving DecidableEq, Repr, Inhabited

def Piece.width : Piece → Nat
  | .char c => c.utf8Size
  | .bad width | .cut width => width

/-- How many bytes follow the first byte of a character, and the range of the next one. -/
def following? (first : UInt8) : Option (Nat × UInt8 × UInt8) :=
  if first < 0xc2 then none
  else if first < 0xe0 then some (1, 0x80, 0xbf)
  else if first == 0xe0 then some (2, 0xa0, 0xbf)
  else if first == 0xed then some (2, 0x80, 0x9f)
  else if first < 0xf0 then some (2, 0x80, 0xbf)
  else if first == 0xf0 then some (3, 0x90, 0xbf)
  else if first < 0xf4 then some (3, 0x80, 0xbf)
  else if first == 0xf4 then some (3, 0x80, 0x8f)
  else none

/-- The code point of a first byte and those that follow it. -/
def codePoint (first : UInt8) (more : List UInt8) : Nat :=
  let start := first.toNat % Nat.pow 2 (6 - more.length)
  more.foldl (fun n b => 64 * n + b.toNat % 64) start

/-- The part at the start of some bytes. -/
def piece (first : UInt8) (rest : List UInt8) : Piece :=
  if first < 0x80 then .char (Char.ofNat first.toNat)
  else match following? first with
    | none => .bad 1
    | some (count, least, most) =>
      let next := rest.take count
      let fine := match next with
        | [] => 0
        | b :: more =>
          if least ≤ b && b ≤ most then
            1 + (more.takeWhile fun b => 0x80 ≤ b && b ≤ 0xbf).length
          else 0
      if fine == count then .char (Char.ofNat (codePoint first next))
      else if fine == next.length then .cut (fine + 1)
      else .bad (fine + 1)

/-- The parts of some bytes. Every part has a byte, so their number is enough fuel. -/
def piecesFrom : (fuel : Nat) → List UInt8 → List Piece
  | 0, _ | _, [] => []
  | fuel + 1, first :: rest =>
    let p := piece first rest
    p :: piecesFrom fuel ((first :: rest).drop p.width)

def pieces (bytes : List UInt8) : List Piece :=
  piecesFrom bytes.length bytes

/-- The text of some bytes, with a replacement character for each fault. -/
def lossy (bytes : List UInt8) : String :=
  String.ofList ((pieces bytes).map fun
    | .char c => c
    | _ => '\ufffd')

/-- The first fault in some parts that start at byte `index`. -/
def faultIn? : List Piece → (index : Nat) → Option String
  | [], _ => none
  | .char c :: rest, index => faultIn? rest (index + c.utf8Size)
  | .bad width :: _, index => some s!"invalid utf-8 sequence of {width} bytes from index {index}"
  | .cut _ :: _, index => some s!"incomplete utf-8 byte sequence from index {index}"

/-- The text of some bytes, or where they fail to be one. -/
def decode (bytes : List UInt8) : Except String String :=
  match String.fromUTF8? bytes.toByteArray with
  | some text => .ok text
  | none => .error ((faultIn? (pieces bytes) 0).getD "")

end Unbundle.Text.Utf8
