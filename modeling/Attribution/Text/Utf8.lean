/-!
UTF-8 as a machine that reads one byte at a time. What it owes is kept in the state, so the bytes of
a broken sequence are known exactly: the strict reading names them, the lenient one puts one
replacement character in their place.
-/

namespace Attribution.Text.Utf8

/-- Why a run of bytes is no character. -/
inductive Defect where
  | invalidStart
  | invalidContinuation
  | unexpectedEnd
  deriving DecidableEq, Repr

def Defect.message : Defect → String
  | .invalidStart => "invalid start byte"
  | .invalidContinuation => "invalid continuation byte"
  | .unexpectedEnd => "unexpected end of data"

/-- A started sequence: the bits read, its first byte, how many bytes were read, how many are owed,
and the range the next one has to lie in. -/
structure Pending where
  code : Nat
  lead : UInt8
  seen : Nat
  owed : Nat
  low : Nat
  high : Nat
  deriving DecidableEq, Repr

/-- What the bytes stand for: characters, and runs of bytes that are none. -/
inductive Piece where
  | char (c : Char)
  | broken (defect : Defect) (lead : UInt8) (length : Nat)
  deriving DecidableEq, Repr

/-- What a byte starts: a character, a sequence, or nothing. -/
inductive Start where
  | char (c : Char)
  | pending (p : Pending)
  | none

def start (b : UInt8) : Start :=
  let n := b.toNat
  if n < 0x80 then .char (Char.ofNat n)
  else if n < 0xc2 then .none
  else if n < 0xe0 then .pending ⟨n - 0xc0, b, 1, 1, 0x80, 0xbf⟩
  else if n < 0xf0 then
    .pending ⟨n - 0xe0, b, 1, 2, if n = 0xe0 then 0xa0 else 0x80, if n = 0xed then 0x9f else 0xbf⟩
  else if n < 0xf5 then
    .pending ⟨n - 0xf0, b, 1, 3, if n = 0xf0 then 0x90 else 0x80, if n = 0xf4 then 0x8f else 0xbf⟩
  else .none

/-- The sequence after one more of its bytes. -/
def Pending.extend (p : Pending) (b : UInt8) : Pending :=
  ⟨p.code * 64 + (b.toNat - 0x80), p.lead, p.seen + 1, p.owed - 1, 0x80, 0xbf⟩

/-- Whether a byte continues the sequence. -/
def Pending.accepts (p : Pending) (b : UInt8) : Bool :=
  p.low ≤ b.toNat && b.toNat ≤ p.high

/-- Reads on from a state: nothing owed, or a started sequence. -/
def piecesFrom : Option Pending → List UInt8 → List Piece
  | none, [] => []
  | some p, [] => [.broken .unexpectedEnd p.lead p.seen]
  | none, b :: rest =>
    match start b with
    | .char c => .char c :: piecesFrom none rest
    | .pending p => piecesFrom (some p) rest
    | .none => .broken .invalidStart b 1 :: piecesFrom none rest
  | some p, b :: rest =>
    if p.accepts b then
      if p.owed ≤ 1 then .char (Char.ofNat (p.extend b).code) :: piecesFrom none rest
      else piecesFrom (some (p.extend b)) rest
    else
      .broken .invalidContinuation p.lead p.seen ::
        match start b with
        | .char c => .char c :: piecesFrom none rest
        | .pending q => piecesFrom (some q) rest
        | .none => .broken .invalidStart b 1 :: piecesFrom none rest

def pieces (bytes : List UInt8) : List Piece := piecesFrom none bytes

/-- The first broken run of a text: where it starts, what is wrong and how long it is. -/
structure Fault where
  defect : Defect
  lead : UInt8
  position : Nat
  length : Nat
  deriving DecidableEq, Repr

/-- The bytes a character takes. -/
def charLength (c : Char) : Nat :=
  let n := c.toNat
  if n < 0x80 then 1 else if n < 0x800 then 2 else if n < 0x10000 then 3 else 4

def strictFrom (position : Nat) : List Piece → Except Fault (List Char)
  | [] => .ok []
  | .char c :: rest => (strictFrom (position + charLength c) rest).map (c :: ·)
  | .broken defect lead length :: _ => .error ⟨defect, lead, position, length⟩

/-- The text that the bytes encode; refused at the first broken run. -/
def decode (bytes : List UInt8) : Except Fault (List Char) := strictFrom 0 (pieces bytes)

/-- The text that the bytes encode, with a replacement character for every broken run. -/
def decodeLossy (bytes : List UInt8) : List Char :=
  (pieces bytes).map fun
    | .char c => c
    | .broken .. => '\ufffd'

def hexByte (b : UInt8) : String :=
  let digits := Nat.toDigits 16 b.toNat
  String.ofList (if digits.length < 2 then '0' :: digits else digits)

/-- One byte at fault is named by its value, several by their positions. -/
def Fault.message (f : Fault) : String :=
  let run :=
    if f.length = 1 then "byte 0x" ++ hexByte f.lead ++ " in position " ++ toString f.position
    else
      "bytes in position " ++ toString f.position ++ "-" ++ toString (f.position + f.length - 1)
  "'utf-8' codec can't decode " ++ run ++ ": " ++ f.defect.message

/-- A byte that goes on with a character: it carries the last six bits of a number. -/
def tailByte (n : Nat) : UInt8 := UInt8.ofNat (0x80 + n % 64)

/-- The bytes of one character. -/
def encodeChar (c : Char) : List UInt8 :=
  let n := c.toNat
  if n < 0x80 then [UInt8.ofNat n]
  else if n < 0x800 then [UInt8.ofNat (0xc0 + n / 64), tailByte n]
  else if n < 0x10000 then [UInt8.ofNat (0xe0 + n / 4096), tailByte (n / 64), tailByte n]
  else
    [UInt8.ofNat (0xf0 + n / 262144), tailByte (n / 4096), tailByte (n / 64), tailByte n]

/-- The bytes of a text. -/
def encode (s : List Char) : List UInt8 := s.flatMap encodeChar

end Attribution.Text.Utf8
