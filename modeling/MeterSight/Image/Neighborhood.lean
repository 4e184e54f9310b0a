import MeterSight.Image.Basic

/-!
# Averages and extremes of neighborhoods

Filters that look at the square around a pixel. Beyond an edge of the image the edge pixels repeat.
Each filter works along the rows first and then along the columns of that result.
-/
namespace MeterSight

/-- The sum of the first `n` values. -/
def sumBelow (f : Nat → Nat) : Nat → Nat
  | 0 => 0
  | n + 1 => sumBelow f n + f n

/-- The combination of the first `n + 1` values. -/
def combineUpTo (op : UInt8 → UInt8 → UInt8) (f : Nat → UInt8) : Nat → UInt8
  | 0 => f 0
  | n + 1 => op (combineUpTo op f n) (f (n + 1))

/-- The index `k` steps into the window around `i`, kept below `n`. -/
def windowIndex (n radius i k : Nat) : Nat := min (i + k - radius) (n - 1)

theorem windowIndex_lt {n : Nat} (radius i k : Nat) (h : 0 < n) : windowIndex n radius i k < n := by
  unfold windowIndex
  omega

namespace Image

/-- Averages along the rows, rounded down. -/
def averageRows (radius : Nat) (img : GrayImage) : GrayImage :=
  ofFn img.width img.height fun x y =>
    UInt8.ofNat (sumBelow (fun k => (img.pixel (windowIndex img.width radius x k) y).toNat)
      (2 * radius + 1) / (2 * radius + 1))

/-- Averages along the columns, rounded down. -/
def averageColumns (radius : Nat) (img : GrayImage) : GrayImage :=
  ofFn img.width img.height fun x y =>
    UInt8.ofNat (sumBelow (fun k => (img.pixel x (windowIndex img.height radius y k)).toNat)
      (2 * radius + 1) / (2 * radius + 1))

/-- Averages over the square with a given radius, rounding down twice. -/
def boxAverage (radius : Nat) (img : GrayImage) : GrayImage :=
  averageColumns radius (averageRows radius img)

/-- Combines along the rows. -/
def combineRows (op : UInt8 → UInt8 → UInt8) (radius : Nat) (img : GrayImage) : GrayImage :=
  ofFn img.width img.height fun x y =>
    combineUpTo op (fun k => img.pixel (windowIndex img.width radius x k) y) (2 * radius)

/-- Combines along the columns. -/
def combineColumns (op : UInt8 → UInt8 → UInt8) (radius : Nat) (img : GrayImage) : GrayImage :=
  ofFn img.width img.height fun x y =>
    combineUpTo op (fun k => img.pixel x (windowIndex img.height radius y k)) (2 * radius)

/-- The brightest pixel around each. -/
def dilate (radius : Nat) (img : GrayImage) : GrayImage :=
  combineColumns max radius (combineRows max radius img)

/-- The darkest pixel around each. -/
def erode (radius : Nat) (img : GrayImage) : GrayImage :=
  combineColumns min radius (combineRows min radius img)

/-- Removes dark strokes thinner than the square and keeps the rest. -/
def close (radius : Nat) (img : GrayImage) : GrayImage := erode radius (dilate radius img)

@[simp] theorem width_boxAverage (radius : Nat) (img : GrayImage) :
    (boxAverage radius img).width = img.width := rfl

@[simp] theorem height_boxAverage (radius : Nat) (img : GrayImage) :
    (boxAverage radius img).height = img.height := rfl

@[simp] theorem width_close (radius : Nat) (img : GrayImage) :
    (close radius img).width = img.width := rfl

@[simp] theorem height_close (radius : Nat) (img : GrayImage) :
    (close radius img).height = img.height := rfl

end Image
end MeterSight
