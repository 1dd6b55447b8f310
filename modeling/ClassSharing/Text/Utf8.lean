/-!
# UTF-8

Bytes are decoded to characters one sequence at a time. A fault names the bytes that could not be
decoded and why: a byte that starts nothing, a byte that does not continue the sequence before it,
or the end of the data inside a sequence.
-/

namespace ClassSharing.Text.Utf8

/-- Why a sequence of bytes stands for no character. -/
inductive Cause where
  /-- The first byte starts no sequence. -/
  | start
  /-- The sequence is broken off by a byte that cannot continue it. -/
  | continuation
  /-- The data ends inside the sequence. -/
  | truncated
  deriving DecidableEq, Repr

/-- A place where decoding fails: the undecodable bytes, their position, and the cause. -/
structure Fault where
  position : Nat
  bytes : List UInt8
  cause : Cause
  deriving DecidableEq, Repr

/-- The wording of a cause. -/
def Cause.message : Cause → String
  | .start => "invalid start byte"
  | .continuation => "invalid continuation byte"
  | .truncated => "unexpected end of data"

/-- A byte in two hexadecimal digits. -/
def hexByte (b : UInt8) : String :=
  String.ofList [Nat.digitChar (b.toNat / 16), Nat.digitChar (b.toNat % 16)]

/-- The wording of a fault: a single byte is named, several are given by their positions. -/
def Fault.message (f : Fault) : String :=
  let place :=
    match f.bytes with
    | [b] => "byte 0x" ++ hexByte b ++ " in position " ++ toString f.position
    | bs => "bytes in position " ++ toString f.position ++ "-" ++
        toString (f.position + bs.length - 1)
  "'utf-8' codec can't decode " ++ place ++ ": " ++ f.cause.message

/-- Whether a byte has the form `10xxxxxx`. -/
def isTail (b : UInt8) : Bool := 0x80 ≤ b && b ≤ 0xbf

/-- The second bytes that may follow a first byte: overlong forms, surrogates and values above
U+10FFFF are excluded here. -/
def isSecond (first second : UInt8) : Bool :=
  if first == 0xe0 then 0xa0 ≤ second && second ≤ 0xbf
  else if first == 0xed then 0x80 ≤ second && second ≤ 0x9f
  else if first == 0xf0 then 0x90 ≤ second && second ≤ 0xbf
  else if first == 0xf4 then 0x80 ≤ second && second ≤ 0x8f
  else isTail second

/-- The six low bits of a continuation byte. -/
def low (b : UInt8) : Nat := b.toNat % 64

/-- Decodes the bytes from position `n` on. -/
def decodeFrom (n : Nat) : List UInt8 → Except Fault (List Char)
  | [] => .ok []
  | a :: rest =>
    if a < 0x80 then
      return Char.ofNat a.toNat :: (← decodeFrom (n + 1) rest)
    else if a < 0xc2 then .error ⟨n, [a], .start⟩
    else if a < 0xe0 then
      match rest with
      | [] => .error ⟨n, [a], .truncated⟩
      | b :: rest =>
        if isSecond a b then
          return Char.ofNat (a.toNat % 32 * 64 + low b) :: (← decodeFrom (n + 2) rest)
        else .error ⟨n, [a], .continuation⟩
    else if a < 0xf0 then
      match rest with
      | [] => .error ⟨n, [a], .truncated⟩
      | b :: rest =>
        if isSecond a b then
          match rest with
          | [] => .error ⟨n, [a, b], .truncated⟩
          | c :: rest =>
            if isTail c then
              return Char.ofNat ((a.toNat % 16 * 64 + low b) * 64 + low c) ::
                (← decodeFrom (n + 3) rest)
            else .error ⟨n, [a, b], .continuation⟩
        else .error ⟨n, [a], .continuation⟩
    else if a < 0xf5 then
      match rest with
      | [] => .error ⟨n, [a], .truncated⟩
      | b :: rest =>
        if isSecond a b then
          match rest with
          | [] => .error ⟨n, [a, b], .truncated⟩
          | c :: rest =>
            if isTail c then
              match rest with
              | [] => .error ⟨n, [a, b, c], .truncated⟩
              | d :: rest =>
                if isTail d then
                  return Char.ofNat (((a.toNat % 8 * 64 + low b) * 64 + low c) * 64 + low d) ::
                    (← decodeFrom (n + 4) rest)
                else .error ⟨n, [a, b, c], .continuation⟩
            else .error ⟨n, [a, b], .continuation⟩
        else .error ⟨n, [a], .continuation⟩
    else .error ⟨n, [a], .start⟩

/-- Decodes a whole text. -/
def decode (bytes : List UInt8) : Except Fault (List Char) := decodeFrom 0 bytes

/-- Decodes a text that arrives in blocks of a size. A sequence that a block breaks off is held back
for the next block, and the positions of a fault count from the bytes that were held back. -/
def decodeBlocks (size : Nat) (held : List UInt8) (bytes : List UInt8) :
    Except Fault (List Char) :=
  if bytes.isEmpty ∨ size = 0 then decode (held ++ bytes)
  else
    let block := held ++ bytes.take size
    match decode block with
    | .ok text => do return text ++ (← decodeBlocks size [] (bytes.drop size))
    | .error fault =>
      if fault.cause = .truncated then do
        let text ← decode (block.take fault.position)
        return text ++ (← decodeBlocks size fault.bytes (bytes.drop size))
      else .error fault
termination_by bytes.length
decreasing_by
  all_goals
    simp only [List.length_drop]
    have : bytes ≠ [] := by simp_all
    have := List.length_pos_iff.2 this
    omega

/-- The bytes of one character. -/
def encodeChar (c : Char) : List UInt8 :=
  let n := c.toNat
  if n < 0x80 then [n.toUInt8]
  else if n < 0x800 then [(0xc0 + n / 64).toUInt8, (0x80 + n % 64).toUInt8]
  else if n < 0x10000 then
    [(0xe0 + n / 4096).toUInt8, (0x80 + n / 64 % 64).toUInt8, (0x80 + n % 64).toUInt8]
  else
    [(0xf0 + n / 262144).toUInt8, (0x80 + n / 4096 % 64).toUInt8, (0x80 + n / 64 % 64).toUInt8,
      (0x80 + n % 64).toUInt8]

/-- The bytes of a text. -/
def encode (text : List Char) : List UInt8 := text.flatMap encodeChar

@[simp] theorem decode_nil : decode [] = .ok [] := rfl

@[simp] theorem encode_nil : encode [] = [] := rfl

theorem encode_append (s t : List Char) : encode (s ++ t) = encode s ++ encode t := by
  simp [encode]

end ClassSharing.Text.Utf8
