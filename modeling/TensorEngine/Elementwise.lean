import TensorEngine.Buffer
import TensorEngine.Summation

/-! Broadcasting addition and channel sums on flat storage. -/

set_option autoImplicit false

namespace TensorEngine.Elementwise

variable {α : Type}

-- A source dimension matches an equal one, and one element matches any number.
def matchesDim (dest src : Nat) : Bool := dest = src || src = 1

def broadcasts (dest src : Shape) : Bool :=
  matchesDim dest.samples src.samples && matchesDim dest.channels src.channels &&
    matchesDim dest.rows src.rows && matchesDim dest.cols src.cols

-- Coordinate in the source; an axis of one element is read again and again.
def broadcastCoord (extent coord : Nat) : Nat := if extent = 1 then 0 else coord

def broadcastIndex (src : Shape) (index : Index) : Index where
  sample := broadcastCoord src.samples index.sample
  channel := broadcastCoord src.channels index.channel
  row := broadcastCoord src.rows index.row
  col := broadcastCoord src.cols index.col

-- New value of an element; the old one is not read when `beta` is zero.
def blend [Zero α] [Add α] [Mul α] [BEq α] (beta old alpha value : α) : α :=
  if beta == 0 then alpha * value else beta * old + alpha * value

/-- Computes beta * dest + alpha * src, with `src` broadcast over `dest`. -/
def addScaled [Zero α] [Add α] [Mul α] [BEq α] (beta : α) (dest : Array α) (destLayout : Layout)
    (alpha : α) (src : Array α) (srcLayout : Layout) : Except Error (Array α) := do
  Buffer.fitsLayout dest destLayout
  Buffer.fitsLayout src srcLayout
  if broadcasts destLayout.dims srcLayout.dims then
    return dest.mapIdx fun flat old =>
      let index := broadcastIndex srcLayout.dims (destLayout.planePosition flat)
      blend beta old alpha (src.getD (srcLayout.offset index) 0)
  else throw (.incompatibleShapes destLayout.dims srcLayout.dims)

-- Sum over samples, rows and columns of one channel: columns first, then rows,
-- then samples. Columns and rows lie side by side when they are added.
def channelSum [Zero α] [Add α] (values : Array α) (layout : Layout) (channel : Nat) : α :=
  sumInOrder layout.dims.samples fun sample =>
    sumStriped layout.dims.rows fun row =>
      sumStriped layout.dims.cols fun col =>
        values.getD (layout.offset ⟨sample, channel, row, col⟩) 0

def addChannelSums [Zero α] [Add α] (dest values : Array α) (layout : Layout) :
    Except Error (Array α) := do
  Buffer.fitsLayout values layout
  if dest.size = layout.dims.channels then
    return dest.mapIdx fun channel old => old + channelSum values layout channel
  else throw (.shapeMismatch [layout.dims.channels] [dest.size])

def fill (dest : Array α) (value : α) : Array α := dest.map fun _ => value

def scale [Mul α] (dest : Array α) (factor : α) : Array α := dest.map (· * factor)

end TensorEngine.Elementwise
