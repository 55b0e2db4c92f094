import Mathlib.Algebra.BigOperators.Ring.Finset
import TensorEngine.Proofs.Conv.Axis
import TensorEngine.Proofs.Conv.Geometry
import TensorEngine.Proofs.Storage

/-! Convolution as a trilinear form. Outputs, filter taps and data elements are joined
by one relation; each pass is the form with one of its three arguments left open, which
is why the gradients are adjoint to the forward pass. -/

set_option autoImplicit false

namespace TensorEngine.Conv.Geometry

variable {α : Type}

/-- An output reads a data element through a tap of its filter. -/
def Reads (geometry : Geometry) (output tap data : Index) : Prop :=
  tap.sample = output.channel ∧ data.sample = output.sample ∧ data.channel = tap.channel ∧
    geometry.rowAxis.Meets output.row tap.row data.row ∧
      geometry.colAxis.Meets output.col tap.col data.col

instance (geometry : Geometry) (output tap data : Index) :
    Decidable (geometry.Reads output tap data) :=
  inferInstanceAs (Decidable (_ ∧ _ ∧ _ ∧ _ ∧ _))

section

variable [Zero α]

/-- What an output reads through a tap; zero in the padding. -/
def tapped (geometry : Geometry) (data : Index → α) (output tap : Index) : α :=
  (geometry.rowAxis.input? output.row tap.row).elim 0 fun row =>
    (geometry.colAxis.input? output.col tap.col).elim 0 fun col =>
      data ⟨output.sample, tap.channel, row, col⟩

/-- What is found at the output that reads a data element through a tap; zero if none does. -/
def reached (geometry : Geometry) (gradient : Index → α) (data tap : Index) : α :=
  (geometry.rowAxis.output? data.row tap.row).elim 0 fun row =>
    (geometry.colAxis.output? data.col tap.col).elim 0 fun col =>
      gradient ⟨data.sample, tap.sample, row, col⟩

end

theorem ite_reads [Zero α] (geometry : Geometry) (output tap data : Index) (value : α) :
    (if geometry.Reads output tap data then value else 0) =
      if tap.sample = output.channel then
        if data.sample = output.sample then
          if data.channel = tap.channel then
            if geometry.rowAxis.Meets output.row tap.row data.row then
              if geometry.colAxis.Meets output.col tap.col data.col then value else 0
            else 0
          else 0
        else 0
      else 0 := by
  simp only [← ite_and]
  exact if_congr Iff.rfl rfl rfl

section

variable [MulZeroClass α] (geometry : Geometry) (factor : α) (f : Index → α)

theorem mul_tapped (output tap : Index) :
    geometry.tapped (fun element => factor * f element) output tap =
      factor * geometry.tapped f output tap := by
  unfold tapped
  cases geometry.rowAxis.input? output.row tap.row with
  | none => simp
  | some row => cases geometry.colAxis.input? output.col tap.col <;> simp

theorem mul_reached (element tap : Index) :
    geometry.reached (fun output => factor * f output) element tap =
      factor * geometry.reached f element tap := by
  unfold reached
  cases geometry.rowAxis.output? element.row tap.row with
  | none => simp
  | some row => cases geometry.colAxis.output? element.col tap.col <;> simp

end

section

variable [AddCommMonoid α]

theorem sum_reads_data (geometry : Geometry) {output tap : Index}
    (sample : output.sample < geometry.data.dims.samples)
    (channel : tap.channel < geometry.data.dims.channels) (f : Index → α) :
    ∑ data ∈ geometry.data.dims.positions, (if geometry.Reads output tap data then f data else 0) =
      if tap.sample = output.channel then geometry.tapped f output tap else 0 := by
  have cols : ∀ row, ∑ col ∈ Finset.range geometry.data.dims.cols,
      (if geometry.colAxis.Meets output.col tap.col col
        then f ⟨output.sample, tap.channel, row, col⟩ else 0) =
        (geometry.colAxis.input? output.col tap.col).elim 0 fun col =>
          f ⟨output.sample, tap.channel, row, col⟩ :=
    fun row => geometry.colAxis.sum_inputs output.col tap.col _
  -- Sample and channel are determined by output and tap, row and column by the axes,
  -- so each of the four nested sums has at most one term.
  unfold tapped
  rw [Shape.sum_positions, ← geometry.rowAxis.sum_inputs]
  simp only [ite_reads, Finset.sum_ite_irrel, Finset.sum_const_zero, Finset.sum_ite_eq',
    Finset.mem_range, sample, channel, if_true, cols]
  rfl

theorem Admitted.sum_reads_output {geometry : Geometry} (admitted : geometry.Admitted)
    {data tap : Index} (sample : data.sample < geometry.data.dims.samples)
    (filter : tap.sample < geometry.filters.dims.samples) (f : Index → α) :
    ∑ output ∈ geometry.output.dims.positions,
      (if geometry.Reads output tap data then f output else 0) =
      if data.channel = tap.channel then geometry.reached f data tap else 0 := by
  have cols : ∀ row, ∑ col ∈ Finset.range geometry.colAxis.outputs,
      (if geometry.colAxis.Meets col tap.col data.col then f ⟨data.sample, tap.sample, row, col⟩
        else 0) =
        (geometry.colAxis.output? data.col tap.col).elim 0 fun col =>
          f ⟨data.sample, tap.sample, row, col⟩ :=
    fun row => Axis.sum_outputs admitted.colStride data.col tap.col _
  unfold reached
  rw [Shape.sum_positions, admitted.output_dims, ← Axis.sum_outputs admitted.rowStride]
  simp only [ite_reads, Finset.sum_ite_irrel, Finset.sum_const_zero, Finset.sum_ite_eq,
    Finset.mem_range, sample, filter, if_true, cols]

-- Only taps of its own filter are met by an output, and each of them at one data
-- element or in the padding.
theorem Admitted.sum_reads_of_output {geometry : Geometry} (admitted : geometry.Admitted)
    {output : Index} (within : output.Within geometry.output.dims) (f : Index → Index → α) :
    ∑ tap ∈ geometry.filters.dims.positions, ∑ element ∈ geometry.data.dims.positions,
        (if geometry.Reads output tap element then f tap element else 0) =
      ∑ channel ∈ Finset.range geometry.filters.dims.channels,
        ∑ row ∈ Finset.range geometry.filters.dims.rows,
          ∑ col ∈ Finset.range geometry.filters.dims.cols,
          geometry.tapped (f ⟨output.channel, channel, row, col⟩) output
            ⟨output.channel, channel, row, col⟩ := by
  rw [admitted.output_dims] at within
  obtain ⟨sample, filter, -, -⟩ := within
  have inner : ∀ tap ∈ geometry.filters.dims.positions,
      (∑ element ∈ geometry.data.dims.positions,
        if geometry.Reads output tap element then f tap element else 0) =
        if tap.sample = output.channel then geometry.tapped (f tap) output tap else 0 := by
    intro tap inside
    obtain ⟨-, channel, -, -⟩ := Shape.mem_positions.mp inside
    exact geometry.sum_reads_data sample (admitted.channels ▸ channel) (f tap)
  rw [Finset.sum_congr rfl inner, Shape.sum_positions_sample filter]

theorem Admitted.sum_reads_of_tap {geometry : Geometry} (admitted : geometry.Admitted) {tap : Index}
    (within : tap.Within geometry.filters.dims) (f : Index → Index → α) :
    ∑ output ∈ geometry.output.dims.positions, ∑ element ∈ geometry.data.dims.positions,
        (if geometry.Reads output tap element then f output element else 0) =
      ∑ sample ∈ Finset.range geometry.data.dims.samples,
        ∑ row ∈ Finset.range geometry.rowAxis.outputs,
          ∑ col ∈ Finset.range geometry.colAxis.outputs,
          geometry.tapped (f ⟨sample, tap.sample, row, col⟩)
            ⟨sample, tap.sample, row, col⟩ tap := by
  obtain ⟨filter, channel, -, -⟩ := within
  have inner : ∀ output ∈ geometry.output.dims.positions,
      (∑ element ∈ geometry.data.dims.positions,
        if geometry.Reads output tap element then f output element else 0) =
        if output.channel = tap.sample then geometry.tapped (f output) output tap else 0 := by
    intro output inside
    rw [Shape.mem_positions, admitted.output_dims] at inside
    rw [geometry.sum_reads_data inside.1 (admitted.channels ▸ channel) (f output)]
    exact if_congr eq_comm rfl rfl
  have inOutput := Nat.lt_of_lt_of_eq filter admitted.output_channels.symm
  rw [Finset.sum_congr rfl inner, Shape.sum_positions_channel inOutput, admitted.output_dims]

end

section

variable [CommSemiring α] (geometry : Geometry) (filters data gradient : Index → α)

def outputShare (output : Index) : α :=
  ∑ tap ∈ geometry.filters.dims.positions, ∑ element ∈ geometry.data.dims.positions,
    if geometry.Reads output tap element then filters tap * data element else 0

def dataShare (element : Index) : α :=
  ∑ tap ∈ geometry.filters.dims.positions, ∑ output ∈ geometry.output.dims.positions,
    if geometry.Reads output tap element then filters tap * gradient output else 0

def filterShare (tap : Index) : α :=
  ∑ output ∈ geometry.output.dims.positions, ∑ element ∈ geometry.data.dims.positions,
    if geometry.Reads output tap element then gradient output * data element else 0

/-- The trilinear form that the passes share. -/
def form : α :=
  ∑ output ∈ geometry.output.dims.positions, ∑ tap ∈ geometry.filters.dims.positions,
    ∑ element ∈ geometry.data.dims.positions,
      if geometry.Reads output tap element then filters tap * data element * gradient output else 0

theorem sum_outputShare :
    ∑ output ∈ geometry.output.dims.positions,
      gradient output * geometry.outputShare filters data output =
      geometry.form filters data gradient := by
  simp only [outputShare, form, Finset.mul_sum, mul_ite, mul_zero]
  refine Finset.sum_congr rfl fun output _ => Finset.sum_congr rfl fun tap _ =>
    Finset.sum_congr rfl fun element _ => ?_
  rw [mul_comm (gradient output)]

theorem sum_dataShare :
    ∑ element ∈ geometry.data.dims.positions,
      data element * geometry.dataShare filters gradient element =
      geometry.form filters data gradient := by
  simp only [dataShare, form, Finset.mul_sum, mul_ite, mul_zero]
  -- Taps are brought to the front on both sides; below them outputs and elements trade places.
  rw [Finset.sum_comm, Finset.sum_comm (s := geometry.output.dims.positions)]
  refine Finset.sum_congr rfl fun tap _ => ?_
  rw [Finset.sum_comm]
  refine Finset.sum_congr rfl fun output _ => Finset.sum_congr rfl fun element _ => ?_
  rw [mul_left_comm, mul_assoc]

theorem sum_filterShare :
    ∑ tap ∈ geometry.filters.dims.positions, filters tap * geometry.filterShare data gradient tap =
      geometry.form filters data gradient := by
  simp only [filterShare, form, Finset.mul_sum, mul_ite, mul_zero]
  rw [Finset.sum_comm]
  refine Finset.sum_congr rfl fun output _ => Finset.sum_congr rfl fun tap _ =>
    Finset.sum_congr rfl fun element _ => ?_
  rw [mul_comm (gradient output), mul_assoc]

variable {geometry} (admitted : geometry.Admitted)

include admitted

theorem Admitted.outputShare_eq {output : Index} (within : output.Within geometry.output.dims) :
    geometry.outputShare filters data output =
      ∑ channel ∈ Finset.range geometry.filters.dims.channels,
        ∑ row ∈ Finset.range geometry.filters.dims.rows,
          ∑ col ∈ Finset.range geometry.filters.dims.cols,
          filters ⟨output.channel, channel, row, col⟩ *
            geometry.tapped data output ⟨output.channel, channel, row, col⟩ := by
  unfold outputShare
  rw [admitted.sum_reads_of_output within fun tap element => filters tap * data element]
  simp only [mul_tapped]

theorem Admitted.dataShare_eq {element : Index} (within : element.Within geometry.data.dims) :
    geometry.dataShare filters gradient element =
      ∑ filter ∈ Finset.range geometry.filters.dims.samples,
        ∑ row ∈ Finset.range geometry.filters.dims.rows,
          ∑ col ∈ Finset.range geometry.filters.dims.cols,
          filters ⟨filter, element.channel, row, col⟩ *
            geometry.reached gradient element ⟨filter, element.channel, row, col⟩ := by
  obtain ⟨sample, channel, -, -⟩ := within
  have inner : ∀ tap ∈ geometry.filters.dims.positions,
      (∑ output ∈ geometry.output.dims.positions,
        if geometry.Reads output tap element then filters tap * gradient output else 0) =
      if tap.channel = element.channel then filters tap * geometry.reached gradient element tap
      else 0 := by
    intro tap inside
    obtain ⟨filter, -, -, -⟩ := Shape.mem_positions.mp inside
    rw [admitted.sum_reads_output sample filter, mul_reached]
    exact if_congr eq_comm rfl rfl
  unfold dataShare
  rw [Finset.sum_congr rfl inner, Shape.sum_positions_channel (admitted.channels ▸ channel)]

theorem Admitted.filterShare_eq {tap : Index} (within : tap.Within geometry.filters.dims) :
    geometry.filterShare data gradient tap =
      ∑ sample ∈ Finset.range geometry.data.dims.samples,
        ∑ row ∈ Finset.range geometry.rowAxis.outputs,
          ∑ col ∈ Finset.range geometry.colAxis.outputs,
          gradient ⟨sample, tap.sample, row, col⟩ *
            geometry.tapped data ⟨sample, tap.sample, row, col⟩ tap := by
  unfold filterShare
  rw [admitted.sum_reads_of_tap within fun output element => gradient output * data element]
  simp only [mul_tapped]

end

section

variable [CommSemiring α] (geometry : Geometry)

/-- What a pass computes for one element of its target. -/
def share (pass : Pass) (first second : Array α) (flat : Nat) : α :=
  match pass with
  | .forward =>
    geometry.outputShare (Buffer.read geometry.filters second) (Buffer.read geometry.data first)
      (geometry.output.position flat)
  | .backwardData =>
    geometry.dataShare (Buffer.read geometry.filters second) (Buffer.read geometry.output first)
      (geometry.data.position flat)
  | .backwardFilter =>
    geometry.filterShare (Buffer.read geometry.data second) (Buffer.read geometry.output first)
      (geometry.filters.position flat)

/-- What a pass leaves in its target: the data gradient is added, the others are assigned. -/
def result (pass : Pass) (target first second : Array α) : Array α :=
  Buffer.cells target.size fun flat =>
    if pass = .backwardData then Buffer.cell target flat + geometry.share pass first second flat
    else geometry.share pass first second flat

theorem cell_result (pass : Pass) (target first second : Array α) {flat : Nat}
    (inside : flat < target.size) :
    Buffer.cell (geometry.result pass target first second) flat =
      if pass = .backwardData then Buffer.cell target flat + geometry.share pass first second flat
      else geometry.share pass first second flat :=
  Buffer.cell_cells _ inside

end

end TensorEngine.Conv.Geometry
