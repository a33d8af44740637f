/-!
# UTF-8

`decode?` reads bytes that are UTF-8 throughout.  `decodeLossy` reads any bytes: each longest run
that begins a character and cannot be continued gives one replacement character.
-/

namespace Groundwork.Text

/-- The bytes of a text in UTF-8. -/
def utf8Bytes (s : String) : List UInt8 :=
  s.toUTF8.toList

/-- Whether a byte continues a character. -/
def isContinuation (b : UInt8) : Bool :=
  0x80 ≤ b && b ≤ 0xBF

/-- Whether `second` may follow the lead byte `lead`: no overlong form, no surrogate, nothing above
the last code point. -/
def secondFits (lead second : UInt8) : Bool :=
  if lead == 0xE0 then 0xA0 ≤ second && second ≤ 0xBF
  else if lead == 0xED then 0x80 ≤ second && second ≤ 0x9F
  else if lead == 0xF0 then 0x90 ≤ second && second ≤ 0xBF
  else if lead == 0xF4 then 0x80 ≤ second && second ≤ 0x8F
  else isContinuation second

/-- The number of bytes of the character that begins with this byte; none for a byte that begins
no character. -/
def sequenceLength (lead : UInt8) : Option Nat :=
  if lead < 0x80 then some 1
  else if 0xC2 ≤ lead && lead ≤ 0xDF then some 2
  else if 0xE0 ≤ lead && lead ≤ 0xEF then some 3
  else if 0xF0 ≤ lead && lead ≤ 0xF4 then some 4
  else none

/-- The low six bits of a byte. -/
def payload (b : UInt8) : Nat :=
  b.toNat % 64

/-- The first character of a run of bytes, or none for a bad start, with the number of bytes it
takes up (at least one of `lead :: rest`). -/
def decodeFirst (lead : UInt8) (rest : List UInt8) : Option Char × Nat :=
  match sequenceLength lead, rest with
  | some 1, _ => (some (Char.ofNat lead.toNat), 1)
  | some 2, b :: _ =>
    if isContinuation b then (some (Char.ofNat (lead.toNat % 32 * 64 + payload b)), 2)
    else (none, 1)
  | some 3, b :: tail =>
    if secondFits lead b then
      match tail with
      | c :: _ =>
        if isContinuation c then
          (some (Char.ofNat ((lead.toNat % 16 * 64 + payload b) * 64 + payload c)), 3)
        else (none, 2)
      | [] => (none, 2)
    else (none, 1)
  | some 4, b :: tail =>
    if secondFits lead b then
      match tail with
      | c :: d :: _ =>
        if isContinuation c then
          if isContinuation d then
            (some (Char.ofNat
              (((lead.toNat % 8 * 64 + payload b) * 64 + payload c) * 64 + payload d)), 4)
          else (none, 3)
        else (none, 2)
      | [c] => if isContinuation c then (none, 3) else (none, 2)
      | [] => (none, 2)
    else (none, 1)
  | _, _ => (none, 1)

/-- The characters of some bytes, with `none` for each bad run. -/
def decodeRuns : List UInt8 → List (Option Char)
  | [] => []
  | lead :: rest =>
    let (c, used) := decodeFirst lead rest
    c :: decodeRuns (rest.drop (used - 1))
termination_by bytes => bytes.length
decreasing_by simp only [List.length_drop, List.length_cons]; omega

/-- The text the bytes write, if they are UTF-8 throughout. -/
def decode? (bytes : List UInt8) : Option String :=
  ((decodeRuns bytes).mapM id).map String.ofList

/-- The text the bytes write, with U+FFFD for each bad run. -/
def decodeLossy (bytes : List UInt8) : String :=
  String.ofList ((decodeRuns bytes).map fun c => c.getD '\uFFFD')

end Groundwork.Text
