import MeterSight.Codec.Bits

/-!
# Prefix codes

A code gives words of bits to symbols so that no word begins another. It is told by the lengths of
the words alone: shorter words come first, and of one length those of smaller symbols.
-/
namespace MeterSight.Codec

/-- How many symbols have words of each length, and the symbols from short to long. -/
structure PrefixCode where
  counts : Array Nat
  symbols : Array Nat

namespace PrefixCode

/-- The longest word. -/
def longestWord : Nat := 15

/-- The code in which symbol `i` has a word of `lengths[i]` bits, or none if zero. -/
def ofLengths (lengths : List Nat) : PrefixCode where
  counts := ((List.range (longestWord + 1)).map fun n => lengths.count n).toArray
  symbols := ((List.range longestWord).flatMap fun n =>
    (lengths.zipIdx.filter fun e => e.1 = n + 1).map Prod.snd).toArray

/-- How many of the longest words begin with the words of these lengths. -/
def coverage (lengths : List Nat) : Nat :=
  lengths.foldr (fun n sum => (if n = 0 then 0 else 1 <<< (longestWord - n)) + sum) 0

/-- Every row of bits begins with just one word. -/
def IsComplete (lengths : List Nat) : Prop := coverage lengths = 1 <<< longestWord

/-- There are no words, a single one of one bit, or all that can be. -/
def IsCompleteOrSmall (lengths : List Nat) : Prop :=
  lengths.filter (· ≠ 0) = [] ∨ lengths.filter (· ≠ 0) = [1] ∨ IsComplete lengths

instance (lengths : List Nat) : Decidable (IsComplete lengths) :=
  inferInstanceAs (Decidable (_ = _))

instance (lengths : List Nat) : Decidable (IsCompleteOrSmall lengths) :=
  inferInstanceAs (Decidable (_ ∨ _ ∨ _))

/-- Reads a symbol, one bit after the other. `first` is the first word of the length so far, and
`before` the number of symbols with shorter ones. -/
def read (c : PrefixCode) (b : Bits) (start : Nat) : Except BitFault (Nat × Nat) :=
  go longestWord 1 0 0 0 start
where
  go : Nat → Nat → Nat → Nat → Nat → Nat → Except BitFault (Nat × Nat)
    | 0, _, _, _, _, _ => .error .broken
    | fuel + 1, length, word, first, before, position =>
      if b.Has position 1 then
        let word := word + b.bitAt position
        let count := c.counts.getD length 0
        if word < first + count then
          match c.symbols[before + (word - first)]? with
          | some symbol => .ok (symbol, position + 1)
          | none => .error .broken
        else go fuel (length + 1) (2 * word) (2 * (first + count)) (before + count) (position + 1)
      else .error .ended

end PrefixCode
end MeterSight.Codec
