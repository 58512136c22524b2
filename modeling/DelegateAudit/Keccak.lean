import DelegateAudit.Bytes

/-!
# DelegateAudit — Keccak-256

The hash that gives functions their selectors. The state is a square of five by five
64-bit lanes, lane `(x, y)` at index `x + 5 y`; every round mixes columns, rotates and
moves lanes, mixes rows and adds a constant.
-/

namespace DelegateAudit.Keccak

/-- The state: twenty-five lanes. -/
abbrev State := Vector UInt64 25

/-- The lane in column `x` and row `y`, both counted round a circle of five. -/
def lane (s : State) (x y : Nat) : UInt64 := s.get ⟨x % 5 + 5 * (y % 5), by omega⟩

/-- Rotate a lane towards its high end. -/
def rotate (w : UInt64) (n : Nat) : UInt64 :=
  if n % 64 = 0 then w
  else (w <<< UInt64.ofNat (n % 64)) ||| (w >>> UInt64.ofNat (64 - n % 64))

/-- How far each lane is rotated. -/
def offsets : Vector Nat 25 :=
  #v[0, 1, 62, 28, 27, 36, 44, 6, 55, 20, 3, 10, 43, 25, 39, 41, 45, 15, 21, 8, 18, 2, 61, 56, 14]

/-- The constant of each round. -/
def constants : List UInt64 :=
  [0x0000000000000001, 0x0000000000008082, 0x800000000000808A, 0x8000000080008000,
   0x000000000000808B, 0x0000000080000001, 0x8000000080008081, 0x8000000000008009,
   0x000000000000008A, 0x0000000000000088, 0x0000000080008009, 0x000000008000000A,
   0x000000008000808B, 0x800000000000008B, 0x8000000000008089, 0x8000000000008003,
   0x8000000000008002, 0x8000000000000080, 0x000000000000800A, 0x800000008000000A,
   0x8000000080008081, 0x8000000000008080, 0x0000000080000001, 0x8000000080008008]

/-- The sum of a column. -/
def column (s : State) (x : Nat) : UInt64 :=
  lane s x 0 ^^^ lane s x 1 ^^^ lane s x 2 ^^^ lane s x 3 ^^^ lane s x 4

/-- Add to every lane the sums of the two columns next to it. -/
def mixColumns (s : State) : State :=
  let sums : Vector UInt64 5 := Vector.ofFn fun x => column s x
  .ofFn fun i =>
    let x := i.val % 5
    s[i] ^^^ sums.get ⟨(x + 4) % 5, by omega⟩ ^^^ rotate (sums.get ⟨(x + 1) % 5, by omega⟩) 1

/-- Rotate every lane by its offset and move it to its new place. -/
def moveLanes (s : State) : State :=
  .ofFn fun i =>
    let x := i.val % 5
    let y := i.val / 5
    rotate (lane s (x + 3 * y) x) (offsets.get ⟨(x + 3 * y) % 5 + 5 * (x % 5), by omega⟩)

/-- Mix every lane with the two that follow it in its row. -/
def mixRows (s : State) : State :=
  .ofFn fun i =>
    let x := i.val % 5
    let y := i.val / 5
    s[i] ^^^ (~~~ lane s (x + 1) y &&& lane s (x + 2) y)

/-- One round. -/
def round (s : State) (constant : UInt64) : State :=
  let mixed := mixRows (moveLanes (mixColumns s))
  mixed.set 0 (mixed[0] ^^^ constant)

/-- All rounds. -/
def permute (s : State) : State := constants.foldl round s

/-- The number of bytes taken in before each permutation. -/
def rate : Nat := 136

/-- Fill up to a whole number of blocks: a one bit at the front of the filling, one at its end. -/
def pad (message : Bytes) : Bytes :=
  let missing := rate - message.length % rate
  if missing = 1 then message ++ [0x81]
  else message ++ [0x01] ++ List.replicate (missing - 2) 0 ++ [0x80]

/-- A lane from eight bytes, lowest first. -/
def laneOf (bytes : Bytes) : UInt64 :=
  bytes.foldr (fun b w => (w <<< 8) ||| b.toUInt64) 0

/-- Add a block to the front of the state. -/
def addBlock (s : State) (block : Bytes) : State :=
  .ofFn fun i => s[i] ^^^ laneOf ((block.drop (8 * i.val)).take 8)

/-- Take in blocks of a padded message. -/
def absorb : (blocks : Nat) → State → Bytes → State
  | 0, s, _ => s
  | blocks + 1, s, bytes => absorb blocks (permute (addBlock s (bytes.take rate))) (bytes.drop rate)

/-- The bytes of a lane, lowest first. -/
def laneBytes (w : UInt64) : Bytes :=
  (List.range 8).map fun i => (w >>> UInt64.ofNat (8 * i)).toUInt8

/-- The 32 bytes of the hash. -/
def hash (message : Bytes) : Bytes :=
  let padded := pad message
  let s := absorb (padded.length / rate) (.replicate 25 0) padded
  (s.toList.take 4).flatMap laneBytes

end DelegateAudit.Keccak
