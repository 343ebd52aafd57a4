/-!
# UTF-8

Characters as one to four bytes.  Bytes are scanned one at a time into
**pieces**: a character, a run of bytes that no character starts with, or an
unfinished character at the end.  Strict reading refuses the first piece that is
no character and says where it lies; lenient reading puts a replacement
character in its place.

* `encode` and `decode` — strict writing and reading of a text;
* `lenient` — every byte string read as some text;
* `pieces_ascii` — an ASCII byte between characters is a character.
-/

namespace ScanFilter.Utf8

/-- The bytes of a character. -/
def encodeChar (c : Char) : List UInt8 :=
  let n := c.toNat
  if n < 0x80 then
    [UInt8.ofNat n]
  else if n < 0x800 then
    [UInt8.ofNat (0xC0 + n / 0x40), UInt8.ofNat (0x80 + n % 0x40)]
  else if n < 0x10000 then
    [UInt8.ofNat (0xE0 + n / 0x1000), UInt8.ofNat (0x80 + n / 0x40 % 0x40),
      UInt8.ofNat (0x80 + n % 0x40)]
  else
    [UInt8.ofNat (0xF0 + n / 0x40000), UInt8.ofNat (0x80 + n / 0x1000 % 0x40),
      UInt8.ofNat (0x80 + n / 0x40 % 0x40), UInt8.ofNat (0x80 + n % 0x40)]

/-- The bytes of a text. -/
def encode (s : String) : List UInt8 := s.toList.flatMap encodeChar

/-- A stretch of scanned bytes. -/
inductive Piece
  /-- A complete character. -/
  | char (c : Char)
  /-- This many bytes, with which no character starts. -/
  | invalid (width : Nat)
  /-- The bytes end inside a character. -/
  | unfinished
  deriving DecidableEq

/-- Where a scan stands between two bytes. -/
inductive State
  /-- Between characters. -/
  | between
  /-- After `seen` bytes of a character that still owes `owed` bytes.  The next
  one lies in `low … high`; `bits` is the code point so far. -/
  | within (seen owed low high bits : Nat)
  deriving DecidableEq

/-- The first byte of a character. -/
def first (b : UInt8) : List Piece × State :=
  let n := b.toNat
  if n < 0x80 then ([.char (Char.ofNat n)], .between)
  else if 0xC2 ≤ n ∧ n ≤ 0xDF then ([], .within 1 1 0x80 0xBF (n - 0xC0))
  else if n = 0xE0 then ([], .within 1 2 0xA0 0xBF 0)
  else if n = 0xED then ([], .within 1 2 0x80 0x9F 0xD)
  else if 0xE1 ≤ n ∧ n ≤ 0xEF then ([], .within 1 2 0x80 0xBF (n - 0xE0))
  else if n = 0xF0 then ([], .within 1 3 0x90 0xBF 0)
  else if 0xF1 ≤ n ∧ n ≤ 0xF3 then ([], .within 1 3 0x80 0xBF (n - 0xF0))
  else if n = 0xF4 then ([], .within 1 3 0x80 0x8F 4)
  else ([.invalid 1], .between)

/-- One byte: the pieces that it completes, and where the scan stands after
it.  A byte that cannot continue a character ends the invalid piece before it
and is looked at afresh. -/
def step : State → UInt8 → List Piece × State
  | .between, b => first b
  | .within seen owed low high bits, b =>
    if low ≤ b.toNat ∧ b.toNat ≤ high then
      let bits := bits * 0x40 + (b.toNat - 0x80)
      if owed ≤ 1 then ([.char (Char.ofNat bits)], .between)
      else ([], .within (seen + 1) (owed - 1) 0x80 0xBF bits)
    else
      let (done, state) := first b
      (.invalid seen :: done, state)

/-- The pieces of a byte string, scanned from a given state. -/
def piecesFrom : State → List UInt8 → List Piece
  | .between, [] => []
  | .within .., [] => [.unfinished]
  | state, b :: rest =>
    let (done, state) := step state b
    done ++ piecesFrom state rest

/-- The pieces of a byte string. -/
def pieces (bytes : List UInt8) : List Piece := piecesFrom .between bytes

/-- Why a byte string is no text. -/
inductive Fault
  /-- From byte `index` on, `width` bytes with which no character starts. -/
  | invalid (width index : Nat)
  /-- The character that starts at byte `index` is unfinished. -/
  | unfinished (index : Nat)
  deriving DecidableEq

/-- The message of a fault. -/
def Fault.message : Fault → String
  | .invalid width index =>
    s!"invalid utf-8 sequence of {width} bytes from index {index}"
  | .unfinished index =>
    s!"incomplete utf-8 byte sequence from index {index}"

/-- The characters of the pieces from byte `index` on, or the first fault. -/
def characters (index : Nat) : List Piece → Except Fault (List Char)
  | [] => .ok []
  | .char c :: rest =>
    match characters (index + (encodeChar c).length) rest with
    | .ok cs => .ok (c :: cs)
    | .error fault => .error fault
  | .invalid width :: _ => .error (.invalid width index)
  | .unfinished :: _ => .error (.unfinished index)

/-- The text of a byte string, or the first fault in it. -/
def decode (bytes : List UInt8) : Except Fault String :=
  match characters 0 (pieces bytes) with
  | .ok cs => .ok (String.ofList cs)
  | .error fault => .error fault

/-- The character of a piece; U+FFFD stands for a piece that is none. -/
def Piece.lenient : Piece → Char
  | .char c => c
  | .invalid _ | .unfinished => '\ufffd'

/-- The text of any byte string, with U+FFFD for each piece that is no
character. -/
def lenient (bytes : List UInt8) : String :=
  String.ofList ((pieces bytes).map Piece.lenient)

/-- An ASCII byte between characters is a character. -/
theorem pieces_ascii {b : UInt8} (h : b.toNat < 0x80) (rest : List UInt8) :
    pieces (b :: rest) = .char (Char.ofNat b.toNat) :: pieces rest := by
  simp [pieces, piecesFrom, step, first, h]

end ScanFilter.Utf8
