import CypherExpr.Proofs.Evaluation.Operators

/-!
# Positions in lists

A subscript takes one position and a slice two bounds, and both may be counted from the end.  A
slice holds what stands at the positions between its bounds once these are clamped to the list, so
two slices that meet at a bound make the whole list, and a subscript is the first element of the
slice that begins there, or null where there is no such position.  The same can be calculated in
64-bit words: no step of it overflows and every element that is read is there.
-/

namespace CypherExpr

namespace Container

/-! ## Slices as sets of positions -/

section

variable {α : Type}

/-- The elements at the positions from `lower` up to `upper`, without the latter. -/
def elementsFrom (items : List α) (lower upper : Int) : List α :=
  (items.zipIdx.filter fun entry => decide (lower ≤ entry.2 ∧ entry.2 < upper)).map Prod.fst

/-- A bound of a slice: counted from the end where it is negative, and clamped to the list. -/
def clamped (size : Nat) (bound : Int) : Int :=
  max 0 (min size (if bound < 0 then bound + size else bound))

/-- A bound as a position, with a default where it is absent. -/
def boundOr (size default : Nat) (bound : Option Int64) : Int :=
  bound.elim default fun position => clamped size position.toInt

theorem clampBound_eq (size : Nat) (bound : Int) :
    (clampBound size bound : Int) = clamped size bound := by
  unfold clampBound fromFront clamped
  split <;> omega

theorem boundOr_eq (size default : Nat) (bound : Option Int64) :
    boundOr size default bound =
      (bound.elim default fun position => clampBound size position.toInt : Nat) := by
  cases bound with
  | none => rfl
  | some position => exact (clampBound_eq size position.toInt).symm

theorem between_zero (items : List α) (lower : Nat) : between items lower 0 = [] := by
  simp [between]

theorem between_cons_zero (item : α) (rest : List α) (upper : Nat) :
    between (item :: rest) 0 (upper + 1) = item :: between rest 0 upper := rfl

theorem between_cons_succ (item : α) (rest : List α) (lower upper : Nat) :
    between (item :: rest) (lower + 1) (upper + 1) = between rest lower upper := rfl

/-- The positions of the elements may be counted from an offset. -/
theorem filter_zipIdx_eq (items : List α) (lower upper offset : Nat) :
    ((items.zipIdx offset).filter fun entry => decide (lower ≤ entry.2 ∧ entry.2 < upper)).map
        Prod.fst =
      between items (lower - offset) (upper - offset) := by
  induction items generalizing offset with
  | nil => simp [between]
  | cons item rest ih =>
      have hrest := ih (offset + 1)
      rw [List.zipIdx_cons, List.filter_cons]
      by_cases hupper : offset < upper
      · rw [show upper - offset = upper - (offset + 1) + 1 by omega]
        by_cases hlower : lower ≤ offset
        · rw [if_pos (by simp [hlower, hupper]), List.map_cons, hrest,
            Nat.sub_eq_zero_of_le hlower, Nat.sub_eq_zero_of_le (by omega : lower ≤ offset + 1),
            between_cons_zero]
        · rw [if_neg (by simp [hlower]), hrest,
            show lower - offset = lower - (offset + 1) + 1 by omega, between_cons_succ]
      · rw [if_neg (by simp [hupper]), hrest, Nat.sub_eq_zero_of_le (by omega : upper ≤ offset),
          Nat.sub_eq_zero_of_le (by omega : upper ≤ offset + 1), between_zero, between_zero]

theorem elementsFrom_eq (items : List α) (lower upper : Nat) :
    elementsFrom items lower upper = between items lower upper := by
  simpa [elementsFrom] using filter_zipIdx_eq items lower upper 0

theorem between_eq_nil {items : List α} {lower upper : Nat} (hle : upper ≤ lower) :
    between items lower upper = [] := by
  rw [between, List.drop_eq_nil_iff, List.length_take]
  omega

theorem elementsFrom_eq_nil (items : List α) {lower upper : Int} (hle : upper ≤ lower) :
    elementsFrom items lower upper = [] := by
  have hnone : ∀ entry ∈ items.zipIdx, ¬ decide (lower ≤ entry.2 ∧ entry.2 < upper) = true := by
    intro entry _
    simp only [decide_eq_true_eq]
    omega
  rw [elementsFrom, List.filter_eq_nil_iff.mpr hnone, List.map_nil]

/-- Two slices that meet at a bound make the whole. -/
theorem between_append_between (items : List α) (bound : Nat) :
    between items 0 bound ++ between items bound items.length = items := by
  simp [between]

theorem head?_between (items : List α) (lower : Nat) :
    (between items lower items.length).head? = items[lower]? := by
  simp [between]

/-! ## Subscripts -/

theorem at?_of_inside {items : List Value} {position : Int}
    (hinside : -(items.length : Int) ≤ position ∧ position < items.length) :
    at? items position = items[clampBound items.length position]? := by
  have hplace : ¬ fromFront items.length position < 0 ∧
      (fromFront items.length position).toNat = clampBound items.length position := by
    unfold clampBound fromFront
    split <;> omega
  rw [at?, if_neg hplace.1, hplace.2]

theorem at?_of_outside {items : List Value} {position : Int}
    (houtside : ¬ (-(items.length : Int) ≤ position ∧ position < items.length)) :
    at? items position = none := by
  rw [at?]
  split
  · rfl
  · next hplace =>
      rw [List.getElem?_eq_none_iff]
      unfold fromFront at hplace ⊢
      split at hplace <;> omega

/-- Inside the list there is an element at a position, and the slice from there begins with it. -/
theorem exists_at?_of_inside {items : List Value} {position : Int}
    (hinside : -(items.length : Int) ≤ position ∧ position < items.length) :
    ∃ item rest, at? items position = some item ∧
      between items (clampBound items.length position) items.length = item :: rest := by
  have hless : clampBound items.length position < items.length := by
    unfold clampBound fromFront
    split <;> omega
  have hitem := List.getElem?_eq_getElem hless
  obtain ⟨rest, hrest⟩ := List.head?_eq_some_iff.mp
    ((head?_between items (clampBound items.length position)).trans hitem)
  exact ⟨_, rest, (at?_of_inside hinside).trans hitem, hrest⟩

theorem sliceBound_integer (size default : Nat) (bound : Option Int64) :
    sliceBound size default (bound.map .integer) =
      .ok (some (bound.elim default fun position => clampBound size position.toInt)) := by
  cases bound <;> rfl

/-- A slice between integers has the elements at the positions between its bounds. -/
theorem slice_integers (items : List Value) (lower upper : Option Int64) :
    slice (.list items) (lower.map .integer) (upper.map .integer) =
      .ok (.list (elementsFrom items (boundOr items.length 0 lower)
        (boundOr items.length items.length upper))) := by
  rw [boundOr_eq, boundOr_eq, elementsFrom_eq]
  simp only [slice, sliceBound_integer]

end

end Container

/-! ## Positions in words -/

namespace WordPosition

/-- Why a calculation with positions stops short. -/
inductive Fault where
  /-- A sum left the range of words. -/
  | overflow
  /-- A word was to be clamped between bounds of which the lower is the greater. -/
  | noRange
  /-- Something was read that the list does not have. -/
  | outOfRange
  deriving DecidableEq

/-- A sum that nothing checks. -/
def sum (left right : Int64) : Except Fault Int64 :=
  match Checked.add left right with
  | some total => .ok total
  | none => .error .overflow

/-- The sum, or the word nearest to it. -/
def saturatingSum (left right : Int64) : Int64 :=
  (Checked.add left right).getD (if right < 0 then Int64.minValue else Int64.maxValue)

/-- The bits of a word, read as a number without a sign. -/
def count (word : Int64) : Nat := word.toUInt64.toNat

/-- A position from the front for one that may be counted from the end. -/
def resolve (length position : Int64) : Except Fault Int64 :=
  if position < 0 then sum length position else .ok position

/-- The place of a position, if it has one. -/
def place (size : Nat) (position : Int64) : Except Fault (Option Nat) :=
  (Checked.narrow size).elim (.ok none) fun length => do
    let resolved ← resolve length position
    return if 0 ≤ resolved ∧ resolved < length then some (count resolved) else none

def read (items : List Value) (place : Nat) : Except Fault Value :=
  match items[place]? with
  | some item => .ok item
  | none => .error .outOfRange

def subscript (items : List Value) (position : Int64) : Except Fault Value := do
  match ← place items.length position with
  | some place => read items place
  | none => return .null

/-- The word between two others that is nearest to a word. -/
def clamp (low high word : Int64) : Except Fault Int64 :=
  if high < low then .error .noRange
  else .ok (if word < low then low else if high < word then high else word)

def resolveSaturating (length position : Int64) : Int64 :=
  if position < 0 then saturatingSum length position else position

/-- A slice bound as a number of elements. -/
def bound (length position : Int64) : Except Fault Nat :=
  (clamp 0 length (resolveSaturating length position)).map count

def readRange (items : List Value) (lower upper : Nat) : Except Fault (List Value) :=
  if lower ≤ upper ∧ upper ≤ items.length then .ok (Container.between items lower upper)
  else .error .outOfRange

/-- A slice of a list with a length in words. -/
def sliceWithin (length : Int64) (items : List Value) (lower upper : Option Int64) :
    Except Fault (List Value) := do
  let first ← lower.elim (.ok 0) (bound length)
  let last ← upper.elim (.ok items.length) (bound length)
  if last ≤ first then return [] else readRange items first last

/-- A list that is longer than words can tell has the greatest word for its length here. -/
def slice (items : List Value) (lower upper : Option Int64) : Except Fault (List Value) :=
  sliceWithin (Checked.count items.length) items lower upper

theorem count_eq {word : Int64} (hword : 0 ≤ word.toInt) : count word = word.toInt.toNat := by
  rw [count, Int64.toNat_toUInt64_of_le (Int64.le_iff_toInt_le.mpr hword), Int64.toNat_toInt]

theorem lt_zero_iff {word : Int64} : word < 0 ↔ word.toInt < 0 := Int64.lt_iff_toInt_lt

/-- A length and a negative position have a sum. -/
theorem exists_add {length position : Int64} (hlength : 0 ≤ length.toInt)
    (hposition : position.toInt < 0) :
    ∃ total, Checked.add length position = some total ∧
      total.toInt = length.toInt + position.toInt := by
  have hfits : Checked.Fits (length.toInt + position.toInt) := by
    have hlengthFits := Checked.fits_toInt length
    have hpositionFits := Checked.fits_toInt position
    unfold Checked.Fits at *
    omega
  have htotal := Checked.toInt_ofInt hfits
  exact ⟨_, Checked.narrow_eq_some_iff.mpr htotal, htotal⟩

theorem exists_length {size : Nat} (hfits : Checked.Fits size) :
    ∃ length, Checked.narrow size = some length ∧ length.toInt = size := by
  have hlength := Checked.toInt_ofInt hfits
  exact ⟨_, Checked.narrow_eq_some_iff.mpr hlength, hlength⟩

theorem exists_resolve {length : Int64} {size : Nat} (hlength : length.toInt = size)
    (position : Int64) :
    ∃ resolved, resolve length position = .ok resolved ∧
      resolved.toInt = Container.fromFront size position.toInt := by
  unfold resolve Container.fromFront
  by_cases hposition : position.toInt < 0
  · have hnonneg : 0 ≤ length.toInt := by omega
    obtain ⟨total, htotal, hvalue⟩ := exists_add hnonneg hposition
    refine ⟨total, ?_, ?_⟩
    · rw [if_pos (lt_zero_iff.mpr hposition), sum, htotal]
    · rw [if_pos hposition, hvalue, hlength]
  · exact ⟨position, if_neg (mt lt_zero_iff.mp hposition), (if_neg hposition).symm⟩

theorem exists_clamp {length : Int64} (hlength : 0 ≤ length.toInt) (word : Int64) :
    ∃ nearest, clamp 0 length word = .ok nearest ∧
      nearest.toInt = max 0 (min word.toInt length.toInt) := by
  refine ⟨_, if_neg (mt lt_zero_iff.mp (by omega)), ?_⟩
  split
  · next hnegative =>
      rw [lt_zero_iff] at hnegative
      rw [Int64.toInt_zero]
      omega
  · next hnonnegative =>
      rw [lt_zero_iff] at hnonnegative
      split
      · next hgreater =>
          rw [Int64.lt_iff_toInt_lt] at hgreater
          omega
      · next hless =>
          rw [Int64.lt_iff_toInt_lt] at hless
          omega

/-- In words a subscript reads what it reads in exact integers. -/
theorem subscript_eq {items : List Value} (hfits : Checked.Fits items.length)
    (position : Int64) :
    subscript items position = .ok (.ofOption (Container.at? items position.toInt)) := by
  obtain ⟨length, hlength, hsize⟩ := exists_length hfits
  obtain ⟨resolved, hresolved, hvalue⟩ := exists_resolve hsize position
  have hplace : place items.length position =
      .ok (if 0 ≤ resolved ∧ resolved < length then some (count resolved) else none) := by
    rw [place, hlength, Option.elim_some, hresolved]
    rfl
  have hinside : 0 ≤ resolved ∧ resolved < length ↔
      0 ≤ resolved.toInt ∧ resolved.toInt < items.length := by
    rw [← hsize]
    exact and_congr Int64.le_iff_toInt_le Int64.lt_iff_toInt_lt
  rw [subscript, hplace, Container.at?, ← hvalue]
  by_cases hplaced : 0 ≤ resolved.toInt ∧ resolved.toInt < items.length
  · have hitem := List.getElem?_eq_getElem (show resolved.toInt.toNat < items.length by omega)
    rw [if_pos (hinside.mpr hplaced), count_eq hplaced.1, if_neg (by omega), hitem]
    simp only [Bind.bind, Except.bind, read, hitem]
    rfl
  · have hnone : (if resolved.toInt < 0 then none else items[resolved.toInt.toNat]?) = none := by
      split
      · rfl
      · exact List.getElem?_eq_none_iff.mpr (by omega)
    rw [if_neg (mt hinside.mp hplaced), hnone]
    rfl

/-- A subscript in words reads no element that is not there, however long the list. -/
theorem exists_subscript (items : List Value) (position : Int64) :
    ∃ value, subscript items position = .ok value := by
  by_cases hfits : Checked.Fits items.length
  · exact ⟨_, subscript_eq hfits position⟩
  · refine ⟨.null, ?_⟩
    rw [subscript, place, Checked.narrow_eq_none_iff.mpr hfits]
    rfl

theorem toInt_count (size : Nat) :
    0 ≤ (Checked.count size).toInt ∧ (Checked.count size).toInt ≤ size ∧
      (Checked.Fits size → (Checked.count size).toInt = size) := by
  by_cases hfits : Checked.Fits size
  · obtain ⟨length, hlength, hsize⟩ := exists_length hfits
    have hcount : (Checked.count size).toInt = size := by
      rw [Checked.count, hlength, Option.getD_some, hsize]
    exact ⟨hcount ▸ Int.natCast_nonneg size, Int.le_of_eq hcount, fun _ => hcount⟩
  · rw [Checked.count, Checked.narrow_eq_none_iff.mpr hfits, Option.getD_none,
      Int64.toInt_maxValue]
    unfold Checked.Fits at hfits ⊢
    omega

/-- A bound is clamped to a length. -/
theorem bound_eq {length : Int64} (hlength : 0 ≤ length.toInt) (position : Int64) :
    bound length position = .ok (Container.clampBound length.toInt.toNat position.toInt) := by
  have hresolved : (resolveSaturating length position).toInt =
      Container.fromFront length.toInt.toNat position.toInt := by
    unfold resolveSaturating Container.fromFront
    by_cases hposition : position.toInt < 0
    · obtain ⟨total, htotal, hvalue⟩ := exists_add hlength hposition
      rw [if_pos (lt_zero_iff.mpr hposition), if_pos hposition, saturatingSum, htotal,
        Option.getD_some, hvalue, Int.toNat_of_nonneg hlength]
    · rw [if_neg (mt lt_zero_iff.mp hposition), if_neg hposition]
  obtain ⟨nearest, hnearest, hvalue⟩ := exists_clamp hlength (resolveSaturating length position)
  rw [bound, hnearest, Except.map, count_eq (by omega), hvalue, hresolved, Container.clampBound]
  congr 1
  omega

theorem readRange_eq {items : List Value} {lower upper : Nat} (hupper : upper ≤ items.length) :
    (if upper ≤ lower then .ok [] else readRange items lower upper) =
      .ok (Container.between items lower upper) := by
  split
  · next hle => rw [Container.between_eq_nil hle]
  · next hlt => exact if_pos ⟨by omega, hupper⟩

theorem sliceWithin_eq {length : Int64} (hlength : 0 ≤ length.toInt) {items : List Value}
    (hle : length.toInt ≤ items.length) (lower upper : Option Int64) :
    sliceWithin length items lower upper = .ok (Container.between items
      (lower.elim 0 fun position =>
        Container.clampBound length.toInt.toNat position.toInt)
      (upper.elim items.length fun position =>
        Container.clampBound length.toInt.toNat position.toInt)) := by
  have hbound : ∀ (position? : Option Int64) (size : Nat),
      position?.elim (.ok size) (bound length) = .ok (position?.elim size fun position =>
        Container.clampBound length.toInt.toNat position.toInt) := by
    intro position? size
    cases position? with
    | none => rfl
    | some position => exact bound_eq hlength position
  simp only [sliceWithin, hbound, Bind.bind, Except.bind, Pure.pure, Except.pure]
  refine readRange_eq ?_
  cases upper with
  | none => exact Nat.le_refl _
  | some position =>
      rw [Option.elim_some, Container.clampBound]
      omega

/-- A slice in words reads no range that is not there, however long the list. -/
theorem exists_slice (items : List Value) (lower upper : Option Int64) :
    ∃ found, slice items lower upper = .ok found := by
  obtain ⟨hlength, hle, -⟩ := toInt_count items.length
  exact ⟨_, sliceWithin_eq hlength hle lower upper⟩

/-- In words a slice holds what it holds in exact integers. -/
theorem slice_eq {items : List Value} (hfits : Checked.Fits items.length)
    (lower upper : Option Int64) :
    slice items lower upper = .ok (Container.between items
      (lower.elim 0 fun position => Container.clampBound items.length position.toInt)
      (upper.elim items.length fun position =>
        Container.clampBound items.length position.toInt)) := by
  obtain ⟨hlength, hle, hsize⟩ := toInt_count items.length
  rw [slice, sliceWithin_eq hlength hle, hsize hfits, Int.toNat_natCast]

end WordPosition

/-! ## Evaluation -/

namespace Engine

open Container

variable (engine : Engine) {context : Context} {list : Expr} {items : List Value}

theorem eval_slice {budget : Nat} (hlist : engine.eval budget list context = .ok (.list items))
    {lower? upper? : Option Expr} {lower upper : Option Int64}
    (hlower : Eval.optional (engine.eval budget) context lower? = .ok (lower.map .integer))
    (hupper : Eval.optional (engine.eval budget) context upper? = .ok (upper.map .integer)) :
    engine.eval (budget + 1) (.slice list lower? upper?) context =
      .ok (.list (elementsFrom items (boundOr items.length 0 lower)
        (boundOr items.length items.length upper))) := by
  simp only [eval, Eval.level, hlist, hlower, hupper, Bind.bind, Except.bind, slice_integers]
  rfl

theorem eval_index {budget : Nat} (hlist : engine.eval budget list context = .ok (.list items))
    {position : Expr} {place : Int64}
    (hposition : engine.eval budget position context = .ok (.integer place)) :
    engine.eval (budget + 1) (.index list position) context =
      .ok (.ofOption (at? items place.toInt)) := by
  simp only [eval, Eval.level, hlist, hposition]
  rfl

/-- Two slices of a list that meet at a bound add up to the list. -/
theorem evaluate_slices_add {depth : Nat} (hdepth : engine.options.maxDepth = depth + 1)
    (hlist : engine.eval depth list context = .ok (.list items)) {bound : Expr} {place : Int64}
    (hbound : engine.eval depth bound context = .ok (.integer place)) :
    engine.evaluate (.binary .add (.slice list none (some bound)) (.slice list (some bound) none))
      context = .ok (.list items) := by
  have hsome : Eval.optional (engine.eval depth) context (some bound) =
      .ok ((some place).map .integer) := by
    rw [Eval.optional, hbound]
    rfl
  have hnone : Eval.optional (engine.eval depth) context none =
      .ok ((none : Option Int64).map .integer) := rfl
  have hfront := engine.eval_slice hlist hnone hsome
  have hback := engine.eval_slice hlist hsome hnone
  rw [evaluate, hdepth]
  refine engine.eval_binary_eq_ok hfront hback ?_
  simp only [boundOr_eq, elementsFrom_eq, Option.elim_none, Option.elim_some]
  rw [Eval.binary, Arithmetic.add, between_append_between]

/-- A slice of a list has the elements at the positions between its bounds, none where the bounds
are the wrong way round, and two slices that meet at a bound add up to the list.  A subscript within
the list is the first element of the slice that begins there, and null outside.  Calculated in words
a subscript and a slice are the same, and whatever the list and the words are, no sum overflows and
nothing is read out of range. -/
theorem evaluate_positions
    (hlist : engine.eval engine.options.maxDepth list context = .ok (.list items)) :
    (∀ (lower? upper? : Option Expr) (lower upper : Option Int64),
      Eval.optional (engine.eval engine.options.maxDepth) context lower? =
        .ok (lower.map .integer) →
      Eval.optional (engine.eval engine.options.maxDepth) context upper? =
        .ok (upper.map .integer) →
      engine.evaluate (.slice list lower? upper?) context =
          .ok (.list (elementsFrom items (boundOr items.length 0 lower)
            (boundOr items.length items.length upper))) ∧
        (boundOr items.length items.length upper ≤ boundOr items.length 0 lower →
          engine.evaluate (.slice list lower? upper?) context = .ok (.list []))) ∧
    (∀ (position : Expr) (place : Int64),
      engine.eval engine.options.maxDepth position context = .ok (.integer place) →
      if -(items.length : Int) ≤ place.toInt ∧ place.toInt < items.length then
        ∃ item rest, engine.evaluate (.index list position) context = .ok item ∧
          engine.evaluate (.slice list (some position) none) context = .ok (.list (item :: rest))
      else engine.evaluate (.index list position) context = .ok .null) ∧
    (∀ depth, engine.options.maxDepth = depth + 1 →
      engine.eval depth list context = .ok (.list items) → ∀ (bound : Expr) (place : Int64),
      engine.eval depth bound context = .ok (.integer place) →
      engine.evaluate (.binary .add (.slice list none (some bound))
        (.slice list (some bound) none)) context = .ok (.list items)) ∧
    (∀ place, (∃ value, WordPosition.subscript items place = .ok value) ∧
      (Checked.Fits items.length → WordPosition.subscript items place =
        .ok (.ofOption (at? items place.toInt)))) ∧
    ∀ lower upper, (∃ found, WordPosition.slice items lower upper = .ok found) ∧
      (Checked.Fits items.length → WordPosition.slice items lower upper =
        .ok (elementsFrom items (boundOr items.length 0 lower)
          (boundOr items.length items.length upper))) := by
  refine ⟨fun lower? upper? lower upper hlower hupper => ?_, fun position place hposition => ?_,
    fun depth hdepth hlist bound place => engine.evaluate_slices_add hdepth hlist,
    fun place => ⟨WordPosition.exists_subscript items place,
      fun hfits => WordPosition.subscript_eq hfits place⟩,
    fun lower upper => ⟨WordPosition.exists_slice items lower upper, fun hfits => ?_⟩⟩
  · have hslice := engine.eval_slice hlist hlower hupper
    refine ⟨hslice, fun hle => ?_⟩
    rw [elementsFrom_eq_nil items hle] at hslice
    exact hslice
  · have hindex := engine.eval_index hlist hposition
    split
    · next hinside =>
        obtain ⟨item, rest, hitem, hrest⟩ := exists_at?_of_inside hinside
        have hlower : Eval.optional (engine.eval engine.options.maxDepth) context (some position) =
            .ok ((some place).map .integer) := by
          rw [Eval.optional, hposition]
          rfl
        have hupper : Eval.optional (engine.eval engine.options.maxDepth) context none =
            .ok ((none : Option Int64).map .integer) := rfl
        have hslice := engine.eval_slice hlist hlower hupper
        rw [boundOr_eq, boundOr_eq, elementsFrom_eq, Option.elim_some, Option.elim_none, hrest]
          at hslice
        rw [hitem] at hindex
        exact ⟨item, rest, hindex, hslice⟩
    · next houtside =>
        rw [at?_of_outside houtside] at hindex
        exact hindex
  · rw [WordPosition.slice_eq hfits, boundOr_eq, boundOr_eq, elementsFrom_eq]

def numerals : List Value := [.integer 1, .integer 2, .integer 3]

/-- A list under the name `xs`, with the least word and -1 as positions. -/
def rowOfPositions : Context :=
  ⟨[("xs", .list numerals), ("i", .integer Int64.minValue), ("j", .integer (-1))], [], []⟩

/-- The least word stands before every element of `[1, 2, 3]`, and -1 for the last of them. -/
theorem evaluate_positions_least :
    (standard.eval 512 (.variable "xs") rowOfPositions = .ok (.list numerals) ∧
      standard.eval 511 (.variable "xs") rowOfPositions = .ok (.list numerals) ∧
      standard.eval 511 (.variable "j") rowOfPositions = .ok (.integer (-1)) ∧
      standard.eval 512 (.variable "i") rowOfPositions = .ok (.integer Int64.minValue) ∧
      Eval.optional (standard.eval 512) rowOfPositions (some (.variable "i")) =
        .ok ((some Int64.minValue).map .integer) ∧
      Eval.optional (standard.eval 512) rowOfPositions (some (.variable "j")) =
        .ok ((some (-1)).map .integer) ∧
      boundOr 3 0 (some (-1)) = 2 ∧ boundOr 3 3 (some Int64.minValue) = 0 ∧
      Checked.Fits numerals.length) ∧
    standard.evaluate (.slice (.variable "xs") (some (.variable "i")) (some (.variable "j")))
      rowOfPositions = .ok (.list [.integer 1, .integer 2]) ∧
    standard.evaluate (.slice (.variable "xs") (some (.variable "j")) (some (.variable "i")))
      rowOfPositions = .ok (.list []) ∧
    standard.evaluate (.index (.variable "xs") (.variable "i")) rowOfPositions = .ok .null ∧
    standard.evaluate (.binary .add (.slice (.variable "xs") none (some (.variable "j")))
      (.slice (.variable "xs") (some (.variable "j")) none)) rowOfPositions =
        .ok (.list numerals) ∧
    WordPosition.subscript numerals Int64.minValue = .ok .null ∧
    WordPosition.slice numerals (some Int64.minValue) (some (-1)) =
      .ok [.integer 1, .integer 2] := by
  have hxs : ∀ budget, standard.eval (budget + 1) (.variable "xs") rowOfPositions =
      .ok (.list numerals) := fun _ => rfl
  have hi : standard.eval 512 (.variable "i") rowOfPositions = .ok (.integer Int64.minValue) := rfl
  have hj : standard.eval 511 (.variable "j") rowOfPositions = .ok (.integer (-1)) := rfl
  have hlower : Eval.optional (standard.eval 512) rowOfPositions (some (.variable "i")) =
      .ok ((some Int64.minValue).map .integer) := rfl
  have hupper : Eval.optional (standard.eval 512) rowOfPositions (some (.variable "j")) =
      .ok ((some (-1)).map .integer) := rfl
  have hfits : Checked.Fits numerals.length := by decide
  obtain ⟨hslice, hindex, hadd, hsubscript, hwords⟩ := standard.evaluate_positions (hxs 511)
  refine ⟨⟨hxs 511, hxs 510, hj, hi, hlower, hupper, by decide, by decide, hfits⟩, ?_, ?_, ?_,
    hadd 511 rfl (hxs 510) (.variable "j") (-1) hj, ?_, ?_⟩
  · exact (hslice _ _ (some Int64.minValue) (some (-1)) hlower hupper).1
  · exact (hslice _ _ (some (-1)) (some Int64.minValue) hupper hlower).2 (by decide)
  · exact hindex (.variable "i") Int64.minValue hi
  · exact (hsubscript Int64.minValue).2 hfits
  · exact (hwords (some Int64.minValue) (some (-1))).2 hfits

end Engine

end CypherExpr
