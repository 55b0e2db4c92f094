import TensorEngine.Descriptor
import TensorEngine.Proofs.Layout

/-! Descriptors over their lifetime. A client makes descriptors, gives them sizes and moves
them out of their places, which leaves new ones behind. The layout of a descriptor is the
row-major one of its size as soon as it has been given a size; before that, and again in the
place that it was moved out of, it is blank. Of the empty descriptors this makes two kinds. -/

set_option autoImplicit false

namespace TensorEngine.Descriptor

/-- What a client does with the descriptors that it holds. They are numbered by their places. -/
inductive Operation where
  | create
  | setSize (place : Nat) (shape : Shape)
  | take (place : Nat)

-- What is moved out gets a place of its own, behind the others.
def perform (held : List Descriptor) : Operation → List Descriptor
  | .create => held ++ [new]
  | .setSize place shape => held.modify place (·.setSize shape)
  | .take place =>
    match held[place]? with
    | some descriptor => held.set place descriptor.take.2 ++ [descriptor.take.1]
    | none => held

/-- The descriptors that a client holds after a sequence of operations. -/
def run (operations : List Operation) : List Descriptor := operations.foldl perform []

/-! The history of each descriptor, as far as it matters: the size that it was last given. -/

def record (sizes : List (Option Shape)) : Operation → List (Option Shape)
  | .create => sizes ++ [none]
  | .setSize place shape => sizes.modify place fun _ => some shape
  | .take place =>
    match sizes[place]? with
    | some size => sizes.set place none ++ [size]
    | none => sizes

/-- For each place, the size that its descriptor was last given; none if it is as new. -/
def lastSizes (operations : List Operation) : List (Option Shape) := operations.foldl record []

def ofLastSize : Option Shape → Descriptor
  | none => new
  | some shape => ⟨Layout.ofShape shape⟩

-- One operation on descriptors that are what their last sizes make of them.
theorem perform_map (sizes : List (Option Shape)) (operation : Operation) :
    perform (sizes.map ofLastSize) operation = (record sizes operation).map ofLastSize := by
  cases operation with
  | create => simp [perform, record, ofLastSize]
  | setSize place shape =>
    simp only [perform, record]
    apply List.ext_getElem?
    intro other
    rw [List.getElem?_modify, List.getElem?_map, List.getElem?_map, List.getElem?_modify]
    cases sizes[other]? <;> by_cases same : place = other <;> simp [same, ofLastSize, setSize]
  | take place =>
    simp only [perform, record, List.getElem?_map]
    cases sizes[place]? with
    | none => rfl
    | some size => simp [take, ofLastSize, List.map_set]

theorem foldl_perform_map (operations : List Operation) (sizes : List (Option Shape)) :
    operations.foldl perform (sizes.map ofLastSize) =
      (operations.foldl record sizes).map ofLastSize := by
  induction operations generalizing sizes with
  | nil => rfl
  | cons operation rest ih => rw [List.foldl_cons, perform_map, ih, List.foldl_cons]

/-- After any sequence of operations every descriptor is what its last size makes of it. -/
theorem run_eq (operations : List Operation) :
    run operations = (lastSizes operations).map ofLastSize :=
  foldl_perform_map operations []

/-! What the last size makes of a descriptor. -/

theorem size_ofLastSize (size : Option Shape) :
    (ofLastSize size).size = (size.getD Shape.empty).collapse := by
  cases size with
  | none => rfl
  | some shape => rfl

-- The strides of a blank layout are all zero, those of a row-major one never are.
theorem layout_eq_iff (size : Option Shape) :
    (ofLastSize size).layout = Layout.ofShape (ofLastSize size).size ↔ size ≠ none := by
  cases size with
  | none => decide
  | some shape => exact iff_of_true (Layout.rowMajor_ofShape shape) nofun

theorem ofLastSize_eq_iff (first second : Option Shape) :
    ofLastSize first = ofLastSize second ↔
      (ofLastSize first).size = (ofLastSize second).size ∧ (first = none ↔ second = none) := by
  constructor
  · intro same
    have sized := layout_eq_iff first
    rw [same, layout_eq_iff second] at sized
    exact ⟨congrArg size same, not_iff_not.mp sized.symm⟩
  · rintro ⟨sizes, kinds⟩
    by_cases unsized : first = none
    · rw [unsized, kinds.mp unsized]
    · have layouts := (layout_eq_iff first).mpr unsized
      rw [sizes, ← (layout_eq_iff second).mpr fun other => unsized (kinds.mpr other)] at layouts
      exact congrArg Descriptor.mk layouts

-- Only descriptors that hold something tell by their size that they have been given one.
theorem ne_none_of_size {size : Option Shape} (holds : (ofLastSize size).size ≠ Shape.empty) :
    size ≠ none := by
  rintro rfl
  exact holds rfl

/-- After the operations a place holds a descriptor, which was last given this size, or none. -/
structure Holds (operations : List Operation) (place : Nat) (descriptor : Descriptor)
    (last : Option Shape) : Prop where
  held : (run operations)[place]? = some descriptor
  last : (lastSizes operations)[place]? = some last

theorem Holds.eq {operations : List Operation} {place : Nat} {descriptor : Descriptor}
    {last : Option Shape} (holds : Holds operations place descriptor last) :
    descriptor = ofLastSize last := by
  have held := holds.held
  rw [run_eq, List.getElem?_map, holds.last] at held
  exact (Option.some.inj held).symm

/-- Every descriptor that is held has the size that it was last given, collapsed, and the
row-major layout of that size if it was given one; else it is new. Two descriptors, of one
history or of two, are equal if their sizes are, but for empty ones of which only one was
given a size. -/
theorem layout_determined_once_sized (operations others : List Operation) :
    (run operations).length = (lastSizes operations).length ∧
      ∀ {place : Nat} {descriptor : Descriptor} {last : Option Shape},
        Holds operations place descriptor last →
        descriptor.size = (last.getD Shape.empty).collapse ∧
          (descriptor.layout = Layout.ofShape descriptor.size ↔ last ≠ none) ∧
            (last = none → descriptor = new) ∧
          ∀ {otherPlace : Nat} {other : Descriptor} {otherLast : Option Shape},
            Holds others otherPlace other otherLast →
            (descriptor = other ↔ descriptor.size = other.size ∧ (last = none ↔ otherLast = none)) ∧
              (descriptor.size = other.size → descriptor.size ≠ Shape.empty →
                descriptor = other) := by
  refine ⟨by rw [run_eq, List.length_map], fun holds => ?_⟩
  obtain rfl := holds.eq
  refine ⟨size_ofLastSize _, layout_eq_iff _, fun unsized => by rw [unsized]; rfl,
    fun otherHolds => ?_⟩
  obtain rfl := otherHolds.eq
  refine ⟨ofLastSize_eq_iff _ _, fun sizes filled => ?_⟩
  have sized := iff_of_false (ne_none_of_size filled) (ne_none_of_size (sizes ▸ filled))
  exact (ofLastSize_eq_iff _ _).mpr ⟨sizes, sized⟩

-- What is left in a place and sized anew to nothing, beside a descriptor that was never sized.
theorem layout_determined_once_sized_after_take :
    let operations : List Operation :=
      [.create, .setSize 0 ⟨2, 3, 4, 5⟩, .take 0, .setSize 0 ⟨7, 0, 1, 1⟩]
    let moved : Descriptor := ⟨Layout.ofShape ⟨2, 3, 4, 5⟩⟩
    let emptied : Descriptor := ⟨Layout.ofShape Shape.empty⟩
    Holds operations 1 moved (some ⟨2, 3, 4, 5⟩) ∧ moved.layout = Layout.ofShape moved.size ∧
      Holds operations 0 emptied (some ⟨7, 0, 1, 1⟩) ∧ Holds [.create] 0 new none ∧
        emptied ≠ new := by
  intro operations moved emptied
  have atEnd : Holds operations 1 moved (some ⟨2, 3, 4, 5⟩) := ⟨by decide, by decide⟩
  have inPlace : Holds operations 0 emptied (some ⟨7, 0, 1, 1⟩) := ⟨by decide, by decide⟩
  have created : Holds [.create] 0 new none := ⟨by decide, by decide⟩
  obtain ⟨-, determined⟩ := layout_determined_once_sized operations [.create]
  obtain ⟨-, rowMajor, -, -⟩ := determined atEnd
  obtain ⟨-, -, -, compared⟩ := determined inPlace
  refine ⟨atEnd, rowMajor.mpr nofun, inPlace, created, fun same => ?_⟩
  exact nomatch ((compared created).1.mp same).2.mpr rfl

/-- A descriptor that was given an empty size and the new one left in its place are both
empty, and are told apart by their layouts. The new one's is not that of its size. -/
theorem empty_descriptors_differ :
    let held := run [.create, .setSize 0 ⟨0, 3, 4, 5⟩, .take 0]
    ∃ left moved, held = [left, moved] ∧ left.size = moved.size ∧ left ≠ moved ∧
      left.layout ≠ Layout.ofShape left.size := by
  refine ⟨new, ⟨Layout.ofShape Shape.empty⟩, ?_, ?_, ?_, ?_⟩ <;> decide

end TensorEngine.Descriptor
