/-!
# Blank characters

The characters with the White_Space property, and the trimming of texts by it.
Core's `Char.isWhitespace` knows only four of them.
-/
namespace MeterSight.Text

/-- The White_Space property. -/
def isBlank (c : Char) : Bool :=
  let v := c.toNat
  (9 ≤ v && v ≤ 13) || v == 32 || v == 0x85 || v == 0xA0 || v == 0x1680 ||
    (0x2000 ≤ v && v ≤ 0x200A) || v == 0x2028 || v == 0x2029 || v == 0x202F || v == 0x205F ||
    v == 0x3000

/-- Drops the blanks in front. -/
def trimStart (cs : List Char) : List Char := cs.dropWhile isBlank

/-- Drops the blanks at both ends. -/
def trim (cs : List Char) : List Char := (trimStart (trimStart cs).reverse).reverse

theorem trim_append_blank (text : List Char) {c : Char} (h : isBlank c = true) :
    trim (text ++ [c]) = trim text := by
  unfold trim trimStart
  rw [List.dropWhile_append]
  split
  · next none => simp [h, List.isEmpty_iff.1 none]
  · simp [h]

theorem trim_of_blank {text : List Char} (h : ∀ c ∈ text, isBlank c = true) : trim text = [] := by
  have none : trimStart text = [] := by
    rw [trimStart, ← List.append_nil text, List.dropWhile_append_of_pos h]
    rfl
  rw [trim, none]
  rfl

theorem trim_of_sharp {text : List Char} (first : ∀ c ∈ text.head?, isBlank c = false)
    (last : ∀ c ∈ text.getLast?, isBlank c = false) : trim text = text := by
  have same {text : List Char} (first : ∀ c ∈ text.head?, isBlank c = false) :
      trimStart text = text := by
    cases text with
    | nil => rfl
    | cons c rest => simp [trimStart, first c rfl]
  rw [trim, same first, same, List.reverse_reverse]
  rwa [List.head?_reverse]

end MeterSight.Text
