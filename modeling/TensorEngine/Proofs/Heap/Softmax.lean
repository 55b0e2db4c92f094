import TensorEngine.Proofs.Activation.Softmax
import TensorEngine.Proofs.Conv.Correlation
import TensorEngine.Proofs.Heap.Aliasing
import TensorEngine.Proofs.Heap.Derivative

/-! Softmax calls on tensors, in exact arithmetic. Every location is a lane of its own,
forward and backward: forward its channels share out one, backward the lane of gradients
is projected by the outputs, and neither sees another location. -/

set_option autoImplicit false

namespace TensorEngine

/-- The position of another channel at the same location. -/
def Index.inChannel (index : Index) (channel : Nat) : Index := { index with channel }

theorem Index.Within.inChannel {index : Index} {shape : Shape} (within : index.Within shape)
    {channel : Nat} (inside : channel < shape.channels) : (index.inChannel channel).Within shape :=
  ⟨within.1, inside, within.2.2⟩

namespace Heap

open Activation

variable {α : Type}

theorem Leaves.shape_eq {before : Heap α} {dest : Handle} {left : Tensor α}
    {called : Outcome (Heap α) (Event α) Unit} (leaves : Leaves before dest left called) :
    called.state.shape dest = left.shape := congrArg Tensor.shape leaves.tensor

section

variable [Zero α]

theorem Leaves.element_eq {before : Heap α} {dest : Handle} {left : Tensor α}
    {called : Outcome (Heap α) (Event α) Unit} (leaves : Leaves before dest left called)
    (index : Index) :
    called.state.element dest index = Buffer.read left.layout left.data index :=
  congrArg (fun tensor : Tensor α => Buffer.read tensor.layout tensor.data index) leaves.tensor

/-! What a call reads, position by position. -/

def ForwardCall.input (call : ForwardCall α) (index : Index) : α := call.heap.element call.src index

def ForwardCall.lane (call : ForwardCall α) (here : Index) : List α :=
  Activation.lane (call.heap.data call.src)
    (call.heap.layout call.src) here.sample here.row here.col

theorem ForwardCall.lane_eq (call : ForwardCall α) (here : Index) :
    call.lane here =
      (List.range (call.heap.shape call.src).channels).map fun k =>
        call.input (here.inChannel k) := rfl

def GradientCall.output (call : GradientCall α) (index : Index) : α :=
  call.heap.element call.outputs index

def GradientCall.given (call : GradientCall α) (index : Index) : α :=
  call.heap.element call.outputGradient index

end

/-! Forward. -/

section

variable [Field α] [LinearOrder α] [Elementary α]

def ForwardCall.output (call : ForwardCall α) (activation : Activation) (index : Index) : α :=
  (call.run activation).state.element call.dest index

/-- What the weights at a location are divided by. -/
def ForwardCall.divisor (call : ForwardCall α) (here : Index) : α :=
  laneDivisor (adjacentLanes (call.heap.layout call.src)) (call.lane here)

theorem ForwardCall.softmax_leaves (call : ForwardCall α) :
    let source := call.heap.get call.src
    Leaves call.heap call.dest ⟨source.descriptor, ofLanes source.layout fun sample row col =>
      laneSoftmax (adjacentLanes source.layout)
        (Activation.lane source.data source.layout sample row col)⟩
      (call.run .softmax) :=
  call.leaves rfl (apply_softmax (call.regular call.src).size)

theorem ForwardCall.output_softmax (call : ForwardCall α) {index : Index}
    (within : index.Within (call.heap.shape call.src)) :
    call.output .softmax index =
      (laneSoftmax (adjacentLanes (call.heap.layout call.src))
        (call.lane index)).getD index.channel 0 := by
  have read := read_ofLanes (call.regular call.src).rowMajor (fun sample row col =>
    laneSoftmax (adjacentLanes (call.heap.layout call.src))
      (Activation.lane (call.heap.data call.src) (call.heap.layout call.src) sample row col)) within
  unfold ForwardCall.output
  rw [call.softmax_leaves.element_eq]
  exact read

variable [IsStrictOrderedRing α]

-- Two lanes that differ by a constant have the same outputs, wherever they stand.
theorem ForwardCall.output_softmax_shift (call other : ForwardCall α) {here there : Index}
    {channels : Nat} {shift : α} (counts : (call.heap.shape call.src).channels = channels)
    (otherCounts : (other.heap.shape other.src).channels = channels)
    (within : here.Within (call.heap.shape call.src))
    (otherWithin : there.Within (other.heap.shape other.src))
    (moved : ∀ k < channels,
      other.input (there.inChannel k) = call.input (here.inChannel k) + shift)
    {k : Nat} (inside : k < channels) :
    other.output .softmax (there.inChannel k) = call.output .softmax (here.inChannel k) := by
  have lanes : other.lane there = (call.lane here).map (· + shift) := by
    rw [other.lane_eq, call.lane_eq, counts, otherCounts, List.map_map]
    exact List.map_congr_left fun k member => moved k (List.mem_range.mp member)
  rw [other.output_softmax (otherWithin.inChannel (Nat.lt_of_lt_of_eq inside otherCounts.symm)),
    call.output_softmax (within.inChannel (Nat.lt_of_lt_of_eq inside counts.symm))]
  change (laneSoftmax _ (other.lane there)).getD k 0 = (laneSoftmax _ (call.lane here)).getD k 0
  rw [lanes, laneSoftmax_shift (adjacentLanes (call.heap.layout call.src))]

variable [LawfulExp α]

theorem ForwardCall.normalised_softmax (call : ForwardCall α) {here : Index}
    (within : here.Within (call.heap.shape call.src)) :
    Normalised (call.heap.shape call.src).channels (fun k => call.input (here.inChannel k))
      (fun k => call.output .softmax (here.inChannel k)) (call.divisor here) := by
  have length : (call.lane here).length = (call.heap.shape call.src).channels := length_lane ..
  have nonempty : call.lane here ≠ [] :=
    List.ne_nil_of_length_pos (Nat.lt_of_lt_of_eq (Nat.zero_lt_of_lt within.2.1) length.symm)
  rw [← length]
  refine normalised_laneSoftmax _ nonempty (fun k inside => ?_) fun k inside => ?_
  · exact getD_lane (call.heap.data call.src) (length ▸ inside)
  · exact call.output_softmax (within.inChannel (length ▸ inside))

/-- A softmax call answers, and at every location the outputs are the weights of the inputs
over a divisor of at least one: they are positive, sum to one and keep the order. Another
location, of any call, has the same outputs if its inputs are the same up to a constant. -/
theorem softmax_normalises (call : ForwardCall α) :
    let shape := call.heap.shape call.src
    (call.run .softmax).answer = .ok () ∧ (call.run .softmax).state.shape call.dest = shape ∧
      ∀ here : Index, here.Within shape →
        Normalised shape.channels (fun k => call.input (here.inChannel k))
          (fun k => call.output .softmax (here.inChannel k)) (call.divisor here) ∧
        ∀ (other : ForwardCall α) (there : Index) (shift : α),
          there.Within (other.heap.shape other.src) →
          (other.heap.shape other.src).channels = shape.channels →
          (∀ k < shape.channels,
            other.input (there.inChannel k) = call.input (here.inChannel k) + shift) →
          ∀ k < shape.channels,
            other.output .softmax (there.inChannel k) = call.output .softmax
              (here.inChannel k) := by
  intro shape
  have leaves := call.softmax_leaves
  refine ⟨leaves.answer, leaves.shape_eq, fun here within => ⟨call.normalised_softmax within, ?_⟩⟩
  intro other there shift otherWithin channels moved k inside
  exact call.output_softmax_shift other rfl channels within otherWithin moved inside

noncomputable instance : LawfulExp ℝ := ⟨Real.exp_pos, Real.exp_monotone, Real.exp_zero⟩

/-- Two tensors that differ by three at the first location and in no known way at the second. -/
noncomputable def shiftedPair : Heap ℝ :=
  ((Heap.empty.create #[1, 0, 2, 5] ⟨1, 2, 1, 2⟩).state.create #[4, 9, 5, -9] ⟨1, 2, 1, 2⟩).state

theorem softmax_normalises_reals :
    let made := (shiftedPair.activate .softmax ⟨0⟩ ⟨0⟩).state.element ⟨0⟩
    let other := (shiftedPair.activate .softmax ⟨0⟩ ⟨1⟩).state.element ⟨0⟩
    (shiftedPair.activate .softmax ⟨0⟩ ⟨0⟩).answer = .ok () ∧ 0 < made ⟨0, 0, 0, 0⟩ ∧
      made ⟨0, 0, 0, 0⟩ < made ⟨0, 1, 0, 0⟩ ∧ made ⟨0, 0, 0, 0⟩ + made ⟨0, 1, 0, 0⟩ = 1 ∧
      other ⟨0, 0, 0, 0⟩ = made ⟨0, 0, 0, 0⟩ ∧ other ⟨0, 1, 0, 0⟩ = made ⟨0, 1, 0, 0⟩ := by
  intro made other
  have regular : shiftedPair.Regular := (Heap.regular_empty.create _ _).create _ _
  have valid : shiftedPair.Valid ⟨0⟩ := by decide
  let inPlace : ForwardCall ℝ := ⟨shiftedPair, ⟨0⟩, ⟨0⟩, regular, valid, rfl⟩
  let moved : ForwardCall ℝ := ⟨shiftedPair, ⟨0⟩, ⟨1⟩, regular, valid, rfl⟩
  let here : Index := ⟨0, 0, 0, 0⟩
  have within : here.Within ⟨1, 2, 1, 2⟩ := by decide
  have data : shiftedPair.data ⟨0⟩ = #[1, 0, 2, 5] := rfl
  have otherData : shiftedPair.data ⟨1⟩ = #[4, 9, 5, -9] := rfl
  have first : inPlace.input (here.inChannel 0) = 1 := congrArg (Buffer.cell · 0) data
  have second : inPlace.input (here.inChannel 1) = 2 := congrArg (Buffer.cell · 2) data
  have shifted : ∀ k < 2,
      moved.input (here.inChannel k) = inPlace.input (here.inChannel k) + 3 := by
    intro k inside
    obtain rfl | rfl : k = 0 ∨ k = 1 := by omega
    · have : moved.input (here.inChannel 0) = 4 := congrArg (Buffer.cell · 0) otherData
      rw [this, first]
      norm_num
    · have : moved.input (here.inChannel 1) = 5 := congrArg (Buffer.cell · 2) otherData
      rw [this, second]
      norm_num
  obtain ⟨answer, -, locations⟩ := softmax_normalises inPlace
  obtain ⟨normalised, unseen⟩ := locations here within
  have unmoved := unseen moved here 3 within rfl shifted
  have total : ∑ k ∈ Finset.range 2, inPlace.output .softmax (here.inChannel k) = 1 :=
    normalised.total
  rw [Finset.sum_range_succ, Finset.sum_range_one] at total
  have ascending : inPlace.input (here.inChannel 0) < inPlace.input (here.inChannel 1) := by
    rw [first, second]
    exact one_lt_two
  exact ⟨answer, normalised.positive 0 two_pos,
    normalised.separated Real.exp_strictMono 0 two_pos 1 one_lt_two ascending, total,
    unmoved 0 two_pos, unmoved 1 one_lt_two⟩

end

/-! Backward. -/

section

variable [CommRing α] [LE α] [DecidableLE α]

def GradientCall.made (call : GradientCall α) (activation : Activation) (index : Index) : α :=
  (call.run activation).state.element call.gradient index

theorem GradientCall.softmax_leaves (call : GradientCall α) :
    let outputs := call.heap.get call.outputs
    Leaves call.heap call.gradient ⟨outputs.descriptor, ofLanes outputs.layout fun sample row col =>
      laneSoftmaxGradient (adjacentLanes outputs.layout)
        (Activation.lane outputs.data outputs.layout sample row col)
        (Activation.lane (call.heap.data call.outputGradient) outputs.layout sample row col)⟩
          (call.run .softmax) :=
  call.leaves rfl rfl (gradient_softmax (call.regular.size_of_shape call.outputShape)
    (call.regular call.outputs).size)

/-- What is made at a position comes from the lane of gradients through it and the outputs there. -/
theorem GradientCall.made_softmax (call : GradientCall α) {index : Index}
    (within : index.Within (call.heap.shape call.outputs)) :
    call.made .softmax index = projected (call.heap.shape call.outputs).channels
      (fun k => call.output (index.inChannel k))
        (fun k => call.given (index.inChannel k)) index.channel := by
  have layout : call.heap.layout call.outputGradient = call.heap.layout call.outputs :=
    call.regular.layout_eq call.outputShape
  have read :=
    read_softmaxGradient (call.regular call.outputs).rowMajor (call.heap.data call.outputs)
    (call.heap.data call.outputGradient) within
  unfold GradientCall.made
  rw [call.softmax_leaves.element_eq]
  refine read.trans ?_
  unfold projected GradientCall.output GradientCall.given element
  simp only [layout, mul_comm (Buffer.read _ (call.heap.data call.outputGradient) _)]
  rfl

section

variable (call other : GradientCall α)
  (same : other.heap.get other.outputs = call.heap.get call.outputs)

include same

-- Calls on the same outputs differ in the gradients alone.
theorem GradientCall.made_on_outputs {here : Index}
    (within : here.Within (call.heap.shape call.outputs)) {k : Nat}
    (inside : k < (call.heap.shape call.outputs).channels) :
    other.made .softmax (here.inChannel k) = projected (call.heap.shape call.outputs).channels
      (fun j => call.output (here.inChannel j)) (fun j => other.given (here.inChannel j)) k := by
  have outputs : other.output = call.output :=
    funext fun index => congrArg
      (fun tensor : Tensor α => Buffer.read tensor.layout tensor.data index) same
  have shape : other.heap.shape other.outputs = call.heap.shape call.outputs :=
    congrArg Tensor.shape same
  have made := other.made_softmax (shape.symm ▸ within.inChannel inside)
  rw [outputs, shape] at made
  exact made

-- The locations add up, and the matrix at each of them is symmetric.
theorem GradientCall.sum_made_mul :
    ∑ index ∈ (call.heap.shape call.outputs).positions,
      call.made .softmax index * other.given index =
      ∑ index ∈ (call.heap.shape call.outputs).positions,
        call.given index * other.made .softmax index := by
  rw [Shape.sum_lanes, Shape.sum_lanes]
  refine Finset.sum_congr rfl fun sample inSamples => Finset.sum_congr rfl fun row inRows =>
    Finset.sum_congr rfl fun col inCols => ?_
  let channels := (call.heap.shape call.outputs).channels
  let here : Index := ⟨sample, 0, row, col⟩
  by_cases none : channels = 0
  · change ∑ k ∈ Finset.range channels, _ = ∑ k ∈ Finset.range channels, _
    rw [none, Finset.sum_range_zero, Finset.sum_range_zero]
  have within : here.Within (call.heap.shape call.outputs) :=
    ⟨Finset.mem_range.mp inSamples, Nat.pos_of_ne_zero none,
    Finset.mem_range.mp inRows, Finset.mem_range.mp inCols⟩
  calc ∑ k ∈ Finset.range channels,
    call.made .softmax (here.inChannel k) * other.given (here.inChannel k)
      = ∑ k ∈ Finset.range channels, projected channels (fun j => call.output (here.inChannel j))
          (fun j => call.given (here.inChannel j)) k * other.given (here.inChannel k) :=
        Finset.sum_congr rfl fun k member => by
          rw [call.made_on_outputs call rfl within (Finset.mem_range.mp member)]
    _ = ∑ k ∈ Finset.range channels, call.given (here.inChannel k) * projected channels
          (fun j => call.output (here.inChannel j)) (fun j => other.given (here.inChannel j)) k :=
        projected_symmetric ..
    _ = ∑ k ∈ Finset.range channels,
        call.given (here.inChannel k) * other.made .softmax (here.inChannel k) :=
        Finset.sum_congr rfl fun k member => by
          rw [call.made_on_outputs other same within (Finset.mem_range.mp member)]

end

/-- A softmax gradient call answers, whatever the outputs are, and applies one symmetric
matrix to the gradients at each location. Where the outputs sum to one, what is made sums to
nothing, and a constant over the channels of the location is not seen. -/
theorem softmaxGradient_is_symmetric (call : GradientCall α) :
    let shape := call.heap.shape call.outputs
    let channels := Finset.range shape.channels
    (call.run .softmax).answer = .ok () ∧ (call.run .softmax).state.shape call.gradient = shape ∧
      (∀ index : Index, index.Within shape → call.made .softmax index = call.output index *
        (call.given index - ∑ k ∈ channels,
          call.output (index.inChannel k) * call.given (index.inChannel k))) ∧
      (∀ other : GradientCall α, other.heap.get other.outputs = call.heap.get call.outputs →
        ∑ index ∈ shape.positions, call.made .softmax index * other.given index =
          ∑ index ∈ shape.positions, call.given index * other.made .softmax index) ∧
      ∀ here : Index, here.Within shape → ∑ k ∈ channels, call.output (here.inChannel k) = 1 →
        ∑ k ∈ channels, call.made .softmax (here.inChannel k) = 0 ∧
        ∀ (other : GradientCall α) (shift : α),
          other.heap.get other.outputs = call.heap.get call.outputs →
          (∀ k < shape.channels,
            other.given (here.inChannel k) = call.given (here.inChannel k) + shift) →
          ∀ k < shape.channels,
            other.made .softmax (here.inChannel k) = call.made .softmax (here.inChannel k) := by
  intro shape channels
  have leaves := call.softmax_leaves
  refine ⟨leaves.answer, leaves.shape_eq, fun index within => call.made_softmax within,
    fun other same => call.sum_made_mul other same, fun here within whole => ⟨?_, ?_⟩⟩
  · rw [Finset.sum_congr rfl fun k member =>
      call.made_on_outputs call rfl within (Finset.mem_range.mp member)]
    exact sum_projected shape.channels _ whole
  · intro other shift same moved k inside
    rw [call.made_on_outputs other same within inside, call.made_on_outputs call rfl within inside]
    exact projected_shift shape.channels whole shift moved inside

/-- Outputs, which sum to one at the first location alone, and gradients that differ by ten
there. -/
def shiftedGradients : Heap ℤ :=
  (((Heap.empty.create #[2, 3, -1, 5] ⟨1, 2, 1, 2⟩).state.create #[1, 2, 3, 4]
    ⟨1, 2, 1, 2⟩).state.create #[11, -7, 13, 0] ⟨1, 2, 1, 2⟩).state

theorem softmaxGradient_is_symmetric_integers :
    let positions := (⟨1, 2, 1, 2⟩ : Shape).positions
    let made := (shiftedGradients.activationGradient .softmax ⟨1⟩ ⟨0⟩ ⟨1⟩).state.element ⟨1⟩
    let other := (shiftedGradients.activationGradient .softmax ⟨2⟩ ⟨0⟩ ⟨2⟩).state.element ⟨2⟩
    (shiftedGradients.activationGradient .softmax ⟨1⟩ ⟨0⟩ ⟨1⟩).answer = .ok () ∧
      made ⟨0, 1, 0, 1⟩ = 5 * (4 - (3 * 2 + 5 * 4)) ∧
      ∑ index ∈ positions, made index * shiftedGradients.element ⟨2⟩ index =
        ∑ index ∈ positions, shiftedGradients.element ⟨1⟩ index * other index ∧
      made ⟨0, 0, 0, 0⟩ + made ⟨0, 1, 0, 0⟩ = 0 ∧
      other ⟨0, 0, 0, 0⟩ = made ⟨0, 0, 0, 0⟩ ∧ other ⟨0, 1, 0, 0⟩ = made ⟨0, 1, 0, 0⟩ := by
  intro positions made other
  have regular : shiftedGradients.Regular := ((Heap.regular_empty.create _ _).create _ _).create _ _
  let inPlace : GradientCall ℤ :=
    ⟨shiftedGradients, ⟨1⟩, ⟨0⟩, ⟨1⟩, regular, by decide, by decide, by decide, by decide⟩
  let moved : GradientCall ℤ :=
    ⟨shiftedGradients, ⟨2⟩, ⟨0⟩, ⟨2⟩, regular, by decide, by decide, by decide, by decide⟩
  let here : Index := ⟨0, 0, 0, 0⟩
  let last : Index := ⟨0, 1, 0, 1⟩
  have within : here.Within ⟨1, 2, 1, 2⟩ := by decide
  have lastWithin : last.Within ⟨1, 2, 1, 2⟩ := by decide
  have whole : ∑ k ∈ Finset.range 2,
      shiftedGradients.element ⟨0⟩ (here.inChannel k) = 1 := by decide
  have shifted : ∀ k < 2, shiftedGradients.element ⟨2⟩ (here.inChannel k) =
      shiftedGradients.element ⟨1⟩ (here.inChannel k) + 10 := by decide
  obtain ⟨answer, -, each, symmetric, centred⟩ := softmaxGradient_is_symmetric inPlace
  have second : made last = 5 * (4 - ∑ k ∈ Finset.range 2,
      shiftedGradients.element ⟨0⟩ (last.inChannel k) * shiftedGradients.element ⟨1⟩
        (last.inChannel k)) :=
    each last lastWithin
  obtain ⟨total, unseen⟩ := centred here within whole
  have unmoved := unseen moved 10 rfl shifted
  have nothing : ∑ k ∈ Finset.range 2, made (here.inChannel k) = 0 := total
  rw [Finset.sum_range_succ, Finset.sum_range_one] at nothing second
  exact ⟨answer, second, symmetric moved rfl, nothing, unmoved 0 two_pos, unmoved 1 one_lt_two⟩

end

end Heap

end TensorEngine
