/-!
# Texts as bytes

Positions in a source are byte offsets into its UTF-8 form, so texts are cut and
joined as bytes and read back afterwards. A cut may fall inside a character; reading
then stops at the first sequence of bytes that is no character and says where it
stands and what is wrong with it.

The reader takes one byte at a time. Between the first and the last byte of a
character it remembers what it has seen and which bytes may come next; narrowing the
range of the second byte is what rules out overlong forms, surrogates and numbers
above U+10FFFF.
-/

namespace ScriptTypes.Utf8

/-- The bytes of a text. -/
def encode (s : String) : List UInt8 := s.toList.flatMap String.utf8EncodeChar

@[simp] theorem encode_empty : encode "" = [] := rfl

/-- What is wrong with a sequence of bytes that is no character. -/
inductive Reason where
  /-- No character starts with this byte. -/
  | invalidStart
  /-- The sequence is broken by a byte that cannot follow. -/
  | invalidContinuation
  /-- The bytes end before the character does. -/
  | unexpectedEnd
deriving DecidableEq, Repr

/-- The wording of a reason. -/
def Reason.message : Reason → String
  | .invalidStart => "invalid start byte"
  | .invalidContinuation => "invalid continuation byte"
  | .unexpectedEnd => "unexpected end of data"

/-- The first sequence of bytes that is no character. -/
structure Fault where
  /-- The first byte of the sequence. -/
  lead : UInt8
  /-- The offset of that byte. -/
  position : Nat
  /-- How many bytes belong together: the longest part that a character could start with. -/
  length : Nat
  /-- What is wrong with them. -/
  reason : Reason
deriving DecidableEq, Repr

/-- A byte in two hexadecimal digits. -/
def hexByte (b : UInt8) : String :=
  String.ofList [Nat.digitChar (b.toNat / 16), Nat.digitChar (b.toNat % 16)]

/-- The wording of a fault: one byte is shown, several are given by their offsets. -/
def Fault.message (f : Fault) : String :=
  let subject :=
    if f.length ≤ 1 then s!"byte 0x{hexByte f.lead} in position {f.position}"
    else s!"bytes in position {f.position}-{f.position + f.length - 1}"
  s!"'utf-8' codec can't decode {subject}: {f.reason.message}"

/-- A character of which the first byte has been read and the last has not. -/
structure Unfinished where
  /-- Its first byte. -/
  lead : UInt8
  /-- The offset of that byte. -/
  start : Nat
  /-- How many of its bytes have been read. -/
  seen : Nat
  /-- How many are still to come. -/
  missing : Nat
  /-- The number that the bytes so far spell. -/
  value : Nat
  /-- The least byte that may come next. -/
  low : UInt8
  /-- The greatest byte that may come next. -/
  high : UInt8

/-- What a first byte above the one-byte characters begins, if anything. -/
def Unfinished.ofLead? (b : UInt8) (position : Nat) : Option Unfinished :=
  let opening (missing value : Nat) (low high : UInt8) : Unfinished :=
    ⟨b, position, 1, missing, value, low, high⟩
  if 0xC2 ≤ b ∧ b ≤ 0xDF then some (opening 1 (b.toNat - 0xC0) 0x80 0xBF)
  else if b = 0xE0 then some (opening 2 0 0xA0 0xBF)
  else if b = 0xED then some (opening 2 0xD 0x80 0x9F)
  else if 0xE1 ≤ b ∧ b ≤ 0xEF then some (opening 2 (b.toNat - 0xE0) 0x80 0xBF)
  else if b = 0xF0 then some (opening 3 0 0x90 0xBF)
  else if 0xF1 ≤ b ∧ b ≤ 0xF3 then some (opening 3 (b.toNat - 0xF0) 0x80 0xBF)
  else if b = 0xF4 then some (opening 3 4 0x80 0x8F)
  else none

/-- The number spelled once a further byte has been read. -/
def Unfinished.extend (u : Unfinished) (b : UInt8) : Nat := u.value * 64 + (b.toNat - 0x80)

/-- The fault of a character that goes no further. -/
def Unfinished.fault (u : Unfinished) (reason : Reason) : Fault :=
  ⟨u.lead, u.start, u.seen, reason⟩

/-- The characters that the bytes spell, `position` being the offset of the first of them. -/
def decodeFrom (position : Nat) (unfinished : Option Unfinished) :
    List UInt8 → Except Fault (List Char)
  | [] =>
    match unfinished with
    | none => .ok []
    | some u => .error (u.fault .unexpectedEnd)
  | b :: bs =>
    match unfinished with
    | none =>
      if b < 0x80 then (Char.ofNat b.toNat :: ·) <$> decodeFrom (position + 1) none bs
      else
        match Unfinished.ofLead? b position with
        | some u => decodeFrom (position + 1) (some u) bs
        | none => .error ⟨b, position, 1, .invalidStart⟩
    | some u =>
      if u.low ≤ b ∧ b ≤ u.high then
        if u.missing ≤ 1 then
          (Char.ofNat (u.extend b) :: ·) <$> decodeFrom (position + 1) none bs
        else
          decodeFrom (position + 1)
            (some { u with
              seen := u.seen + 1, missing := u.missing - 1, value := u.extend b
              low := 0x80, high := 0xBF })
            bs
      else .error (u.fault .invalidContinuation)

/-- The text that the bytes spell, or the first sequence among them that is no character. -/
def decode (bytes : List UInt8) : Except Fault String :=
  String.ofList <$> decodeFrom 0 none bytes

@[simp] theorem decode_nil : decode [] = .ok "" := rfl

end ScriptTypes.Utf8
