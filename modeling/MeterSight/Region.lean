import MeterSight.Error
import MeterSight.Rect

/-!
# Regions

A region ties a box of the photo to the reading it contributes to. A side of the box may be open,
and then lies at the edge of the image.
-/
namespace MeterSight

/-- How far the photo has moved against the configured coordinates. -/
structure Offset where
  dx : Int
  dy : Int
  deriving DecidableEq, Repr

/-- No movement. -/
def Offset.zero : Offset := ⟨0, 0⟩

/-- A stretch of one axis, open where it has no end. -/
structure Span where
  low : Option Nat
  high : Option Nat
  deriving DecidableEq, Repr

namespace Span

/-- The whole axis. -/
def whole : Span := ⟨none, none⟩

/-- Open at both ends. -/
def IsOpen (s : Span) : Prop := s.low = none ∧ s.high = none

instance (s : Span) : Decidable s.IsOpen := inferInstanceAs (Decidable (_ ∧ _))

/-- The far end is not before the near one. -/
def Ordered (s : Span) : Prop := ∀ low ∈ s.low, ∀ high ∈ s.high, low ≤ high

theorem ordered_whole : whole.Ordered := by simp [Ordered, whole]

/-- The smallest stretch with all given ends. -/
def union (spans : List Span) : Span where
  low := (spans.filterMap Span.low).min?
  high := (spans.filterMap Span.high).max?

/-- Where a coordinate comes to lie in an image part of a given extent that begins at `origin`. -/
def locate (shift : Int) (origin extent : Nat) (v : Nat) : Nat :=
  min (v + shift - origin).toNat extent

/-- Start and length of a moved stretch inside such an image part. -/
def place (s : Span) (shift : Int) (origin extent : Nat) : Nat × Nat :=
  let start := s.low.elim 0 (locate shift origin extent)
  let stop := max start (s.high.elim extent (locate shift origin extent))
  (start, stop - start)

theorem locate_le (shift : Int) (origin extent v : Nat) : locate shift origin extent v ≤ extent :=
  Nat.min_le_right ..

theorem place_le (s : Span) (shift : Int) (origin extent : Nat) :
    (s.place shift origin extent).1 + (s.place shift origin extent).2 ≤ extent := by
  have start : s.low.elim 0 (locate shift origin extent) ≤ extent := by
    cases s.low with
    | none => exact Nat.zero_le _
    | some v => exact locate_le ..
  have stop : s.high.elim extent (locate shift origin extent) ≤ extent := by
    cases s.high with
    | none => exact Nat.le_refl _
    | some v => exact locate_le ..
  simp only [place]
  omega

end Span

/-- A box of two stretches. -/
structure Bounds where
  horizontal : Span
  vertical : Span
  deriving DecidableEq, Repr

namespace Bounds

/-- Open on all four sides. -/
def IsOpen (b : Bounds) : Prop := b.horizontal.IsOpen ∧ b.vertical.IsOpen

instance (b : Bounds) : Decidable b.IsOpen := inferInstanceAs (Decidable (_ ∧ _))

/-- The smallest box around several. An open side does not count. -/
def union (all : List Bounds) : Bounds :=
  ⟨Span.union (all.map horizontal), Span.union (all.map vertical)⟩

/-- The pixels of a moved box in an image part of a given size with its corner at `left` and
`top`. -/
def rectIn (b : Bounds) (offset : Offset) (left top width height : Nat) : Rect :=
  let h := b.horizontal.place offset.dx left width
  let v := b.vertical.place offset.dy top height
  ⟨h.1, v.1, h.2, v.2⟩

/-- The pixels of a moved box in a whole image. -/
def rect (b : Bounds) (offset : Offset) (width height : Nat) : Rect :=
  b.rectIn offset 0 0 width height

end Bounds

/-- A part of the photo that shows one or more digits of a reading. -/
structure Region where
  identifier : String
  /-- The identifier under which the confidence is read, if wanted. -/
  confidenceId : Option String
  /-- The power of ten that the digits count. -/
  scaler : Int
  /-- Shows exactly one character. -/
  digit : Bool
  bounds : Bounds
  identifier_ne_empty : identifier ≠ ""
  confidenceId_ne_empty : confidenceId ≠ some ""
  ordered_horizontal : bounds.horizontal.Ordered
  ordered_vertical : bounds.vertical.Ordered

/-- The largest coordinate. -/
def Region.maxCoordinate : Int := 4294967295

/-- A side is open if its coordinate is negative, or too large for any image. -/
def openEnd (v : Int) : Option Nat :=
  if 0 ≤ v ∧ v ≤ Region.maxCoordinate then some v.toNat else none

/-- The stretch between two coordinates, unless the far one lies before the near one. -/
def Span.ofEnds? (identifier : String) (axis : Axis) (near far : Int) :
    Except ConfigError { s : Span // s.Ordered } :=
  match openEnd near, openEnd far with
  | some a, some b =>
    if h : a ≤ b then .ok ⟨⟨some a, some b⟩, by simp [Ordered, h]⟩
    else .error (.invertedBox identifier axis a b)
  | some a, none => .ok ⟨⟨some a, none⟩, by simp [Ordered]⟩
  | none, b => .ok ⟨⟨none, b⟩, by simp [Ordered]⟩

namespace Region

/-- A region of the whole image. -/
def whole? (identifier : String) : Except ConfigError Region :=
  if h : identifier = "" then .error .emptyIdentifier
  else .ok {
    identifier
    confidenceId := none
    scaler := 0
    digit := false
    bounds := ⟨.whole, .whole⟩
    identifier_ne_empty := h
    confidenceId_ne_empty := by simp
    ordered_horizontal := Span.ordered_whole
    ordered_vertical := Span.ordered_whole }

/-- Restricts a region to a box. A negative coordinate leaves its side open. -/
def withBox (r : Region) (x1 y1 x2 y2 : Int) : Except ConfigError Region := do
  let ⟨horizontal, hx⟩ ← Span.ofEnds? r.identifier .horizontal x1 x2
  let ⟨vertical, hy⟩ ← Span.ofEnds? r.identifier .vertical y1 y2
  return { r with
    bounds := ⟨horizontal, vertical⟩
    ordered_horizontal := hx
    ordered_vertical := hy }

def withScaler (r : Region) (scaler : Int) : Region := { r with scaler }

def withDigit (r : Region) (digit : Bool) : Region := { r with digit }

/-- The empty name asks for no confidence. -/
def withConfidenceId (r : Region) (id : Option String) : Region :=
  { r with
    confidenceId := id.filter (· ≠ "")
    confidenceId_ne_empty := by cases id <;> simp [Option.filter] }

end Region

/-- The smallest box around all regions. -/
def boundsOf (regions : List Region) : Bounds := Bounds.union (regions.map Region.bounds)

end MeterSight
