import MeterSight.Codec.PrefixCode

/-!
# Packed data

Packed data is a row of blocks. A block holds bytes as they are, or a row of symbols in prefix
codes: a symbol is a byte, the end of the block, or the length of a piece to repeat, which a
distance follows. A checksum follows the last block; it must be there but is not compared.

How many bytes can come out is known from the start. Once they are out nothing is asked of the data
beyond them, except that a block head which has come along must be sound.
-/
namespace MeterSight.Codec

/-- The first length of each length symbol, and how many bits are added to it. -/
def lengthTable : Array (Nat × Nat) :=
  #[(3, 0), (4, 0), (5, 0), (6, 0), (7, 0), (8, 0), (9, 0), (10, 0), (11, 1), (13, 1), (15, 1),
    (17, 1), (19, 2), (23, 2), (27, 2), (31, 2), (35, 3), (43, 3), (51, 3), (59, 3), (67, 4),
    (83, 4), (99, 4), (115, 4), (131, 5), (163, 5), (195, 5), (227, 5), (258, 0)]

/-- The first distance of each distance symbol, and how many bits are added to it. -/
def distanceTable : Array (Nat × Nat) :=
  #[(1, 0), (2, 0), (3, 0), (4, 0), (5, 1), (7, 1), (9, 2), (13, 2), (17, 3), (25, 3), (33, 4),
    (49, 4), (65, 5), (97, 5), (129, 6), (193, 6), (257, 7), (385, 7), (513, 8), (769, 8),
    (1025, 9), (1537, 9), (2049, 10), (3073, 10), (4097, 11), (6145, 11), (8193, 12), (12289, 12),
    (16385, 13), (24577, 13)]

/-- The symbol that ends a block. -/
def endSymbol : Nat := 256

/-- How a block is packed. -/
inductive Packing where
  /-- So many bytes as they are. -/
  | stored (size : Nat)
  /-- Symbols in a code for bytes and lengths and one for distances. -/
  | coded (lengths distances : PrefixCode)

structure BlockHead where
  isLast : Bool
  packing : Packing

/-- The lengths of the fixed code for bytes and lengths. -/
def fixedLengths : List Nat :=
  List.replicate 144 8 ++ List.replicate 112 9 ++ List.replicate 24 7 ++ List.replicate 8 8

/-- The lengths of the fixed code for distances. -/
def fixedDistances : List Nat := List.replicate 30 5

/-- The order in which the lengths of the code for lengths come. -/
def lengthOrder : List Nat := [16, 17, 18, 0, 8, 7, 9, 6, 10, 5, 11, 4, 12, 3, 13, 2, 14, 1, 15]

/-- The longest word of the code for lengths. A length is only read where so many bits are left. -/
def longestLengthWord : Nat := 7

/-- Reads `n` numbers of three bits. -/
def readShort (b : Bits) : Nat → Nat → Except BitFault (List Nat × Nat)
  | 0, position => .ok ([], position)
  | n + 1, position => do
    let (first, position) ← b.number position 3
    let (others, position) ← readShort b n position
    return (first :: others, position)

/-- Reads `n` lengths in the code for lengths, in reverse behind those known. -/
def readLengths (b : Bits) (code : PrefixCode) (n : Nat) :
    Nat → Nat → List Nat → Except BitFault (List Nat × Nat)
  | 0, _, _ => .error .broken
  | fuel + 1, position, known =>
    if known.length = n then .ok (known.reverse, position)
    else if n < known.length then .error .broken
    else if ¬ b.Has position longestLengthWord then .error .ended
    else do
      let (symbol, position) ← code.read b position
      if symbol < 16 then readLengths b code n fuel position (symbol :: known)
      else if symbol = 16 then
        let (more, position) ← b.number position 2
        match known with
        | [] => .error .broken
        | last :: _ =>
          readLengths b code n fuel position (List.replicate (3 + more) last ++ known)
      else
        let (least, extra) := if symbol = 17 then (3, 3) else (11, 7)
        let (more, position) ← b.number position extra
        readLengths b code n fuel position (List.replicate (least + more) 0 ++ known)

/-- The most symbols for bytes and lengths that a block may have words for. -/
def mostLengths : Nat := 286

/-- The most symbols for distances that a block may have words for. -/
def mostDistances : Nat := 30

/-- Reads the codes of a block that brings its own. -/
def readCodes (b : Bits) (position : Nat) : Except BitFault (Packing × Nat) := do
  let (more, position) ← b.number position 5
  let lengths := 257 + more
  let (more, position) ← b.number position 5
  let distances := 1 + more
  let (more, position) ← b.number position 4
  if mostLengths < lengths ∨ mostDistances < distances then .error .broken
  else
    let (given, position) ← readShort b (4 + more) position
    let short := (List.range 19).map fun symbol => given.getD (lengthOrder.idxOf symbol) 0
    if ¬ PrefixCode.IsComplete short then .error .broken
    else
      let count := lengths + distances
      let (all, position) ← readLengths b (.ofLengths short) count (count + 1) position []
      let first := all.take lengths
      let second := all.drop lengths
      if first.getD endSymbol 0 = 0 ∨ ¬ PrefixCode.IsComplete first ∨
          ¬ PrefixCode.IsCompleteOrSmall second then .error .broken
      else return (.coded (.ofLengths first) (.ofLengths second), position)

/-- The fewest bits that a block takes. -/
def leastBlock : Nat := 10

/-- Reads the head of a block. A block of fixed codes that ends at once holds nothing. -/
def readHead (b : Bits) (position : Nat) : Except BitFault (BlockHead × Nat) :=
  if ¬ b.Has position leastBlock then .error .ended
  else do
    let isLast : Bool := b.numberAt position 1 = 1
    let kind := b.numberAt (position + 1) 2
    let position := position + 3
    if kind = 0 then
      let (size, position) ← b.number ((position + 7) / 8 * 8) 16
      let (complement, position) ← b.number position 16
      if size + complement = 65535 then return (⟨isLast, .stored size⟩, position)
      else .error .broken
    else if kind = 1 then
      if b.numberAt position 7 = 0 then return (⟨isLast, .stored 0⟩, position + 7)
      else return (⟨isLast, .coded (.ofLengths fixedLengths) (.ofLengths fixedDistances)⟩, position)
    else if kind = 2 then
      let (packing, position) ← readCodes b position
      return (⟨isLast, packing⟩, position)
    else .error .broken

/-- How far a block was read. -/
structure BlockRun where
  out : ByteArray
  position : Nat
  /-- Up to its end, and not only until there were enough bytes. -/
  isWhole : Bool

/-- Repeats `n` bytes from `distance` bytes back. -/
def copyBack (out : ByteArray) (distance : Nat) : Nat → ByteArray
  | 0 => out
  | n + 1 => copyBack (out.push (UInt8.ofNat (byteAt out (out.size - distance)))) distance n

/-- Reads the end of a block, if it is the next symbol and the longest word could still come. -/
def readEnd (b : Bits) (lengths : PrefixCode) (position : Nat) (out : ByteArray) : BlockRun :=
  let b := b.throughPiece position
  match lengths.read b position with
  | .ok (symbol, after) =>
    if symbol = endSymbol ∧ b.Has position PrefixCode.longestWord then ⟨out, after, true⟩
    else ⟨out, position, false⟩
  | .error _ => ⟨out, position, false⟩

/-- Reads symbols up to the end of the block, or until there are `limit` bytes. -/
def readSymbols (b : Bits) (limit : Nat) (lengths distances : PrefixCode) :
    Nat → Nat → ByteArray → Except BitFault BlockRun
  | 0, _, _ => .error .ended
  | fuel + 1, position, out =>
    if limit ≤ out.size then .ok (readEnd b lengths position out)
    else do
      let (symbol, position) ← lengths.read b position
      if symbol < endSymbol then
        readSymbols b limit lengths distances fuel position (out.push (UInt8.ofNat symbol))
      else if symbol = endSymbol then return ⟨out, position, true⟩
      else
        match lengthTable[symbol - endSymbol - 1]? with
        | none => .error .broken
        | some (length, extra) =>
          let (more, position) ← b.number position extra
          let (symbol, position) ← distances.read b position
          match distanceTable[symbol]? with
          | none => .error .broken
          | some (distance, extra) =>
            let (further, position) ← b.number position extra
            let room := limit - out.size
            if out.size < distance + further then .error .broken
            else if room < length + more then
              return ⟨copyBack out (distance + further) room, position, false⟩
            else
              readSymbols b limit lengths distances fuel position
                (copyBack out (distance + further) (length + more))

/-- Reads a block behind its head. -/
def readBlock (b : Bits) (limit : Nat) (packing : Packing) (position : Nat) (out : ByteArray) :
    Except BitFault BlockRun :=
  match packing with
  | .stored size =>
    let taken := min size (limit - out.size)
    if b.Has position (8 * taken) then
      .ok ⟨out ++ b.data.extract (position / 8) (position / 8 + taken), position + 8 * taken,
        taken = size⟩
    else .error .ended
  | .coded lengths distances => readSymbols b limit lengths distances (b.size + 1) position out

/-- The bits of the checksum behind the last block. -/
def checksumSize : Nat := 32

/-- The checksum, which begins with a byte of its own, is there. -/
def HasChecksum (b : Bits) (position : Nat) : Prop := b.Has ((position + 7) / 8 * 8) checksumSize

instance (b : Bits) (position : Nat) : Decidable (HasChecksum b position) :=
  inferInstanceAs (Decidable (b.Has _ _))

/-- Reads blocks until there are `limit` bytes, or up to the last if there are at least `least`. Of
what follows `limit` bytes, only the piece that has been begun is looked at, and it may end
anywhere. -/
def readBlocks (b : Bits) (least limit : Nat) :
    Nat → Nat → ByteArray → Except BitFault ByteArray
  | 0, _, _ => .error .ended
  | fuel + 1, position, out =>
    let isFull : Bool := limit ≤ out.size
    match readHead (if isFull then b.throughPiece position else b) position with
    | .error .ended => if isFull then .ok out else .error .ended
    | .error .broken => .error .broken
    | .ok (head, position) => do
      let run ← readBlock b limit head.packing position out
      if run.isWhole ∧ ¬ head.isLast then readBlocks b least limit fuel run.position run.out
      else if limit ≤ run.out.size then return run.out
      else if least ≤ run.out.size ∧ HasChecksum b run.position then return run.out
      else .error .ended

/-- The two bytes in front name this method, a window that is not too large and no dictionary. -/
def IsHead (first second : Nat) : Prop :=
  first % 16 = 8 ∧ first / 16 ≤ 7 ∧ second / 32 % 2 = 0 ∧ (256 * first + second) % 31 = 0

instance (first second : Nat) : Decidable (IsHead first second) :=
  inferInstanceAs (Decidable (_ ∧ _ ∧ _ ∧ _))

/-- Unpacks data that comes in pieces: `limit` bytes, or all that there are if these are at least
`least`. -/
def inflate? (least limit : Nat) (pieces : List ByteArray) : Option ByteArray :=
  let b := Bits.ofPieces pieces
  if IsHead (byteAt b.data 0) (byteAt b.data 1) then
    (readBlocks b least limit (b.size + 1) 16 ByteArray.empty).toOption
  else none

end MeterSight.Codec
