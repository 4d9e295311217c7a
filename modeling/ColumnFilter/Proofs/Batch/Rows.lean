/-
A batch answers as its slots do one by one.

A cell is a literal too (`Layout.literal`), so a filter can be asked about the slots of a batch one
at a time. The two ways choose the test differently. For a literal it is the kind of the literal
that decides, and for a decimal the kind of the filter; for a cell it is the layout, and for a
decimal its precision. `Layout.Suits` says when both choose alike.

* `Batch.mask_eq`: the mask is what the literals give in their order, up to the first error, in
  which a batch names its column;
* `Batch.selects_selectedRows`: the selected rows are the positions at which the mask is true;
* `Batch.selection_eq_ok` and `Batch.selection_eq_error`: numbering them in 32 bits keeps them all,
  or fails at the first one that has more;
* `Batch.mask_rowwise` puts these together, for a batch and for its slices;
* `Batch.selection_past_words` is a batch whose rows are selected and not numbered.
-/
import ColumnFilter.Batch.Basic
import ColumnFilter.Proofs.Compile.Checks
import Mathlib.Data.List.Sort

namespace ColumnFilter

/-! ### Cells as literals -/

/-- An integer of fewer bits in 64 bits. -/
def IntIn.toBigint {lo hi : Int} (n : IntIn lo hi)
    (h : -9223372036854775808 ≤ lo ∧ hi ≤ 9223372036854775807) : Bigint :=
  n.widen h.1 h.2

/-- The literal that a cell is. -/
def Layout.literal : (layout : Layout) → layout.Cell → Scalar
  | .boolean, b => .boolean b
  | .int8, n => .int64 (n.toBigint (by decide))
  | .int16, n => .int64 (n.toBigint (by decide))
  | .int32, n => .int64 (n.toBigint (by decide))
  | .int64, n => .int64 n
  | .date32, n => .int64 (n.toBigint (by decide))
  | .date64, n => .int64 n
  | .timestamp _ _, n => .int64 n
  | .float32, x => .float32 x
  | .float64, x => .float64 x
  | .decimal128 _ _, n => .decimal128 n
  | .utf8, s => .utf8 s
  | .largeUtf8, s => .utf8 s
  | .binary, b => .binary b
  | .largeBinary, b => .binary b

/-- The slots as literals or NULL. -/
def Batch.literals (b : Batch) : List (Option Scalar) :=
  b.slots.map fun slot => slot.map b.layout.literal

/-- The slots of a slice are a slice of the slots. -/
theorem Batch.literals_slice (b : Batch) (offset length : Nat) :
    (b.slice offset length).literals = (b.literals.drop offset).take length := by
  rw [literals, literals, ← List.map_drop, ← List.map_take]
  rfl

/-- Short decimals are for filters over integers, and wide ones for the others. -/
def Layout.Suits (layout : Layout) (f : Filter) : Prop :=
  ∀ precision scale, layout = .decimal128 precision scale →
    (precision ≤ SqlType.maxShortPrecision ↔ f.isInteger = true)

/-! ### Errors -/

namespace TestError

/-- Errors of one kind that name the same filter and test, or the same value. -/
inductive Alike : TestError → TestError → Prop
  | unsupported (filter : FilterKind) (test : TestKind) :
    Alike (.unsupported filter test) (.unsupported filter test)
  | outOfRange (value : Hugeint) (column column' : ShortDecimal) :
    Alike (.outOfRange value column) (.outOfRange value column')

/-- The error with the column of the layout in it. -/
def inLayout (layout : Layout) : TestError → TestError
  | .unsupported filter test => .unsupported filter test
  | .outOfRange value column =>
    match layout with
    | .decimal128 precision scale => .outOfRange value (.declared precision scale)
    | _ => .outOfRange value column

theorem alike_inLayout (e : TestError) (layout : Layout) : (e.inLayout layout).Alike e := by
  cases e with
  | unsupported filter test => exact .unsupported filter test
  | outOfRange value column => cases layout <;> exact .outOfRange value _ _

end TestError

/-! ### Slots -/

namespace Filter

variable {f : Filter} {layout : Layout}

/-- An error about the family of a value has no column in it. -/
theorem mapError_test (v : Probe) : (f.test v).mapError (·.inLayout layout) = f.test v := by
  rw [test]
  cases f.test? v <;> rfl

/-- One cell. -/
theorem testCell_eq (h : layout.Suits f) (cell : layout.Cell) :
    f.testCell layout cell =
      (f.testValue (layout.literal cell)).mapError (·.inLayout layout) := by
  cases layout with
  | decimal128 precision scale =>
    have hsuits := h precision scale rfl
    show (if precision ≤ SqlType.maxShortPrecision then _ else _) =
      (if f.isInteger then _ else _ : Except TestError Bool).mapError _
    -- the layout looks at the precision and the literal at the filter; they agree by assumption
    by_cases hshort : precision ≤ SqlType.maxShortPrecision
    · rw [if_pos hshort, if_pos (hsuits.mp hshort), testShortDecimal, testShortDecimal]
      cases cell.toBigint? with
      | some n => exact (mapError_test _).symm
      | none => rfl
    · rw [if_neg hshort, if_neg (mt hsuits.mpr hshort)]
      exact (mapError_test _).symm
  | other layout => exact cell.elim
  | _ => exact (mapError_test _).symm

/-- One slot. -/
theorem testSlot_eq (h : layout.Suits f) (slot : Option layout.Cell) :
    Batch.testSlot f layout slot =
      (f.testScalar (slot.map layout.literal)).mapError (·.inLayout layout) := by
  cases slot with
  | none => rfl
  | some cell => exact testCell_eq h cell

end Filter

/-! ### Masks -/

namespace Batch

variable {f : Filter} {b : Batch}

theorem mask_of_unsupported?_eq_none (hread : b.unsupported? = none) :
    b.mask f = (b.slots.mapM (testSlot f b.layout)).mapError .slot := by
  rw [mask, hread]

/-- The mask of a batch is what its literals give, each in its turn. -/
theorem mask_eq (hread : b.unsupported? = none) (h : b.layout.Suits f) :
    b.mask f = (b.literals.mapM f.testScalar).mapError (fun e => .slot (e.inLayout b.layout)) := by
  rw [mask_of_unsupported?_eq_none hread, Compile.mapM_mapError, Compile.mapM_mapError, literals,
    List.mapM_map]
  congr 1
  funext slot
  rw [Function.comp_apply, Filter.testSlot_eq h]
  cases f.testScalar (slot.map b.layout.literal) <;> rfl

/-- NULL has an answer, whatever the family of the filter. -/
theorem mask_of_forall_none (hread : b.unsupported? = none) (h : ∀ slot ∈ b.slots, slot = none) :
    b.mask f = .ok (List.replicate b.slots.length f.testNull) := by
  have hslots : b.slots.mapM (testSlot f b.layout) =
      .ok (List.replicate b.slots.length f.testNull) := by
    refine Compile.mapM_eq_ok_iff_map.mpr ?_
    rw [List.map_replicate, List.map_eq_replicate_iff]
    intro slot hslot
    rw [h slot hslot]
    rfl
  rw [mask_of_unsupported?_eq_none hread, hslots]
  rfl

/-! ### Rows -/

/-- The positions at which a mask is true, in ascending order. -/
structure Selects (passes : List Bool) (rows : List Nat) : Prop where
  ascending : rows.Pairwise (· < ·)
  mem_iff (i : Nat) : i ∈ rows ↔ passes[i]? = some true

theorem selects_positions (passes : List Bool) :
    Selects passes ((passes.zipIdx.filter (·.1)).map (·.2)) where
  ascending := by
    have hsublist : ((passes.zipIdx.filter (·.1)).map (·.2)).Sublist (passes.zipIdx.map (·.2)) :=
      List.filter_sublist.map _
    refine List.Pairwise.sublist hsublist ?_
    rw [List.zipIdx_map_snd]
    exact List.pairwise_lt_range'
  mem_iff i := by
    simp [List.mem_zipIdx_iff_getElem?]

/-- A mask has one list of positions at which it is true. -/
theorem Selects.eq {passes : List Bool} {rows rows' : List Nat} (h : Selects passes rows)
    (h' : Selects passes rows') : rows = rows' := by
  refine h.ascending.sortedLT.eq_of_mem_iff h'.ascending.sortedLT fun i => ?_
  rw [h.mem_iff, h'.mem_iff]

theorem selects_selectedRows {passes : List Bool} (h : b.mask f = .ok passes) :
    ∃ rows, b.selectedRows f = .ok rows ∧ Selects passes rows :=
  ⟨_, Compile.map_eq_ok.mpr ⟨passes, h, rfl⟩, selects_positions passes⟩

/-! ### Row numbers -/

theorem rowNumber_eq_ok {row : Nat} {n : UInt32} : rowNumber row = .ok n ↔ row = n.toNat := by
  rw [rowNumber]
  constructor
  · intro h
    split at h <;> cases h
    rw [UInt32.toNat_ofNatLT]
  · rintro rfl
    rw [dif_pos n.toNat_lt_size, UInt32.ofNatLT_toNat]

theorem rowNumber_eq_error {row : Nat} {e : SelectionError} :
    rowNumber row = .error e ↔ UInt32.size ≤ row ∧ e = .rowOverflow row := by
  rw [rowNumber]
  split <;> rename_i hrow
  · simp [hrow]
  · simp [Nat.le_of_not_lt hrow, eq_comm]

/-- Rows that are numbered are the numbers. -/
theorem selection_eq_ok {numbers : List UInt32} :
    b.selection f = .ok numbers ↔ b.selectedRows f = .ok (numbers.map (·.toNat)) := by
  have hnumbers (rows : List Nat) :
      rows.mapM rowNumber = .ok numbers ↔ rows = numbers.map (·.toNat) := by
    simp only [Compile.mapM_eq_ok, rowNumber_eq_ok]
    rw [← List.forall₂_eq_eq_eq, List.forall₂_map_right_iff]
  rw [selection, Compile.bind_eq_ok]
  simp only [Compile.mapError_eq_ok, hnumbers, exists_eq_right]

theorem exists_rowNumber {row : Nat} : (∃ n, rowNumber row = .ok n) ↔ row < UInt32.size := by
  constructor
  · rintro ⟨n, hn⟩
    rw [rowNumber_eq_ok.mp hn]
    exact n.toNat_lt_size
  · intro hrow
    exact ⟨_, dif_pos hrow⟩

/-- Rows are not numbered when they are not selected, or at the first one of more than 32 bits. -/
theorem selection_eq_error {e : SelectionError} :
    b.selection f = .error e ↔ (∃ e', b.selectedRows f = .error e' ∧ e = .batch e') ∨
      ∃ before row after, b.selectedRows f = .ok (before ++ row :: after) ∧
        (∀ i ∈ before, i < UInt32.size) ∧ UInt32.size ≤ row ∧ e = .rowOverflow row := by
  rw [selection, Compile.bind_eq_error]
  simp only [Compile.mapError_eq_error, Compile.mapError_eq_ok, Compile.mapM_eq_error_iff,
    exists_rowNumber, rowNumber_eq_error]
  refine or_congr_right ⟨?_, ?_⟩
  · rintro ⟨rows, hrows, before, row, after, rfl, hbefore, hrow⟩
    exact ⟨before, row, after, hrows, hbefore, hrow⟩
  · rintro ⟨before, row, after, hrows, hbefore, hrow⟩
    exact ⟨_, hrows, before, row, after, rfl, hbefore, hrow⟩

/-- The list splits at its first row of more than 32 bits. -/
def FirstPastWords (rows : List Nat) (row : Nat) : Prop :=
  ∃ before after, rows = before ++ row :: after ∧ (∀ i ∈ before, i < UInt32.size) ∧
    UInt32.size ≤ row

/-- Selected rows are numbered, or numbering fails at the first one of more than 32 bits. -/
theorem numbered_or_rowOverflow {rows : List Nat} (h : b.selectedRows f = .ok rows) :
    (∃ numbers, b.selection f = .ok numbers ∧ numbers.map (·.toNat) = rows) ∨
      ∃ row, FirstPastWords rows row ∧ b.selection f = .error (.rowOverflow row) := by
  cases hselection : b.selection f with
  | ok numbers =>
    have hnumbers := selection_eq_ok.mp hselection
    rw [h] at hnumbers
    exact .inl ⟨numbers, rfl, (Except.ok.inj hnumbers).symm⟩
  | error e =>
    rcases selection_eq_error.mp hselection with
      ⟨e', he', -⟩ | ⟨before, row, after, hrows, hbefore, hrow, rfl⟩
    · -- the rows were selected, so it is not their error
      rw [h] at he'
      cases he'
    · rw [h] at hrows
      obtain rfl := Except.ok.inj hrows
      exact .inr ⟨row, ⟨before, after, rfl, hbefore, hrow⟩, rfl⟩

/-! ### Batches and their literals -/

/-- A batch answers as literals and NULLs do that are tested one by one.

NULLs alone are answered whatever the filter. If the layout suits the filter, there are two
outcomes. Either every literal has an answer, and the mask is their list, the selected rows are the
positions at which it is true, and they are numbered unless one has more than 32 bits; then the
first that does is reported. Or some literal has none; then the mask and the rows fail as the first
such literal does, with the column of the batch in the error. -/
structure AnswersAs (f : Filter) (b : Batch) (literals : List (Option Scalar)) : Prop where
  nulls : (∀ v ∈ literals, v = none) →
    b.mask f = .ok (List.replicate literals.length f.testNull)
  outcome : b.layout.Suits f →
    (∃ passes rows, literals.map f.testScalar = passes.map .ok ∧ b.mask f = .ok passes ∧
      b.selectedRows f = .ok rows ∧ Selects passes rows ∧
      ((∃ numbers, b.selection f = .ok numbers ∧ numbers.map (·.toNat) = rows) ∨
        ∃ row, FirstPastWords rows row ∧ b.selection f = .error (.rowOverflow row))) ∨
    ∃ before v after e e', literals = before ++ v :: after ∧
      (∀ w ∈ before, ∃ passes, f.testScalar w = .ok passes) ∧ f.testScalar v = .error e ∧
      e'.Alike e ∧ b.mask f = .error (.slot e') ∧ b.selectedRows f = .error (.slot e') ∧
      b.selection f = .error (.batch (.slot e'))

theorem answersAs_literals (hread : b.unsupported? = none) : b.AnswersAs f b.literals where
  nulls h := by
    rw [literals, List.length_map]
    refine mask_of_forall_none hread fun slot hslot => ?_
    exact Option.map_eq_none_iff.mp (h _ (List.mem_map_of_mem hslot))
  outcome hsuits := by
    have hmask := mask_eq hread hsuits
    cases hliterals : b.literals.mapM f.testScalar with
    | ok passes =>
      rw [hliterals] at hmask
      obtain ⟨rows, hrows, hselects⟩ := selects_selectedRows hmask
      exact .inl ⟨passes, rows, Compile.mapM_eq_ok_iff_map.mp hliterals, hmask, hrows, hselects,
        numbered_or_rowOverflow hrows⟩
    | error e =>
      rw [hliterals] at hmask
      -- the error passes through the rows to their numbers
      have hrows : b.selectedRows f = .error (.slot (e.inLayout b.layout)) :=
        Compile.map_eq_error.mpr hmask
      have hselection : b.selection f = .error (.batch (.slot (e.inLayout b.layout))) :=
        selection_eq_error.mpr (.inl ⟨_, hrows, rfl⟩)
      obtain ⟨before, v, after, hsplit, hbefore, hv⟩ := Compile.mapM_eq_error_iff.mp hliterals
      exact .inr ⟨before, v, after, e, e.inLayout b.layout, hsplit, hbefore, hv,
        e.alike_inLayout b.layout, hmask, hrows, hselection⟩

/-- If all literals have answers, they are the mask, and its rows are numbered when they all can be. -/
theorem AnswersAs.mask_selection {literals : List (Option Scalar)} {passes : List Bool}
    {numbers : List UInt32} (h : b.AnswersAs f literals) (hsuits : b.layout.Suits f)
    (hpasses : literals.map f.testScalar = passes.map .ok)
    (hnumbers : Selects passes (numbers.map (·.toNat))) :
    b.mask f = .ok passes ∧ b.selection f = .ok numbers := by
  rcases h.outcome hsuits with
    ⟨passes', rows, hpasses', hmask, hrows, hselects, -⟩ | ⟨before, v, after, e, -, rfl, -, hv, -⟩
  · obtain rfl : passes = passes' :=
      (List.map_inj_right fun _ _ => Except.ok.inj).mp (hpasses.symm.trans hpasses')
    rw [hselects.eq hnumbers] at hrows
    exact ⟨hmask, selection_eq_ok.mpr hrows⟩
  · -- a literal without an answer is none of those
    have hmem : f.testScalar v ∈ passes.map .ok := by
      rw [← hpasses]
      exact List.mem_map_of_mem (List.mem_append_right _ List.mem_cons_self)
    obtain ⟨_, -, hok⟩ := List.mem_map.mp hmem
    rw [hv] at hok
    cases hok

/-- A batch of a layout that filters read answers as its literals do, and so does each of its
slices, whose literals are a slice of them. -/
theorem mask_rowwise (f : Filter) (b : Batch) (hread : b.unsupported? = none) :
    b.AnswersAs f b.literals ∧ ∀ offset length,
      (b.slice offset length).AnswersAs f ((b.literals.drop offset).take length) := by
  refine ⟨answersAs_literals hread, fun offset length => ?_⟩
  -- a slice is of the layout of the whole, so it is read when that is
  rw [← b.literals_slice offset length]
  exact answersAs_literals hread

/-- NULL passes, `5` passes, `12` fails and `9` passes; of the slice after the first slot, two rows
are left. The whole batch ends in a decimal of more than 64 bits, and fails as that literal does. -/
theorem mask_rowwise_short_decimal :
    ∃ (f : Filter) (b : Batch),
      f = .integerRange ⟨⟨0, by decide, by decide⟩, ⟨9, by decide, by decide⟩, true, by decide⟩ ∧
      b = ⟨.decimal128 10 2, [none, some ⟨5, by decide, by decide⟩, some ⟨12, by decide, by decide⟩,
        some ⟨9, by decide, by decide⟩, some ⟨18446744073709551616, by decide, by decide⟩]⟩ ∧
      (b.slice 0 4).mask f = .ok [true, true, false, true] ∧
      (b.slice 0 4).selection f = .ok [0, 1, 3] ∧
      (b.slice 1 3).selection f = .ok [0, 2] ∧
      ∃ e : TestError, b.mask f = .error (.slot e) ∧ b.selection f = .error (.batch (.slot e)) ∧
        e.Alike (.outOfRange ⟨18446744073709551616, by decide, by decide⟩ .undeclared) := by
  let f : Filter :=
    .integerRange ⟨⟨0, by decide, by decide⟩, ⟨9, by decide, by decide⟩, true, by decide⟩
  let b : Batch := ⟨.decimal128 10 2, [none, some ⟨5, by decide, by decide⟩,
    some ⟨12, by decide, by decide⟩, some ⟨9, by decide, by decide⟩,
    some ⟨18446744073709551616, by decide, by decide⟩]⟩
  have hsuits : b.layout.Suits f := by
    rintro _ _ ⟨rfl, rfl⟩
    decide
  obtain ⟨hwhole, hslice⟩ := mask_rowwise f b rfl
  have hfirst : (b.slice 0 4).mask f = .ok [true, true, false, true] ∧
      (b.slice 0 4).selection f = .ok [0, 1, 3] :=
    (hslice 0 4).mask_selection hsuits rfl (selects_positions _)
  have hinner : (b.slice 1 3).mask f = .ok [true, false, true] ∧
      (b.slice 1 3).selection f = .ok [0, 2] :=
    (hslice 1 3).mask_selection hsuits rfl (selects_positions _)
  refine ⟨f, b, rfl, rfl, hfirst.1, hfirst.2, hinner.2, ?_⟩
  rcases hwhole.outcome hsuits with
    ⟨passes, _, hpasses, -⟩ | ⟨before, v, after, e, e', hsplit, -, hv, halike, hmask, -, hselection⟩
  · -- the last literal has no answer
    have hlast := congrArg List.getLast? hpasses
    rw [List.getLast?_map, List.getLast?_map] at hlast
    obtain ⟨_, -, h⟩ := Option.map_eq_some_iff.mp hlast.symm
    cases h
  · have hmem : v ∈ b.literals := by
      rw [hsplit]
      exact List.mem_append_right _ List.mem_cons_self
    refine ⟨e', hmask, hselection, ?_⟩
    -- the literals before the last one have answers
    have hlast : v = some (.decimal128 ⟨18446744073709551616, by decide, by decide⟩) := by
      rcases hmem with _ | ⟨_, _ | ⟨_, _ | ⟨_, _ | ⟨_, _ | ⟨_, ⟨⟩⟩⟩⟩⟩⟩
      · cases hv
      · cases hv
      · cases hv
      · cases hv
      · rfl
    rw [hlast] at hv
    obtain rfl := Except.error.inj hv
    exact halike

/-- **Rows of more than 32 bits are not numbered.** Every row of a batch of that length passes, and
is selected, and still no numbers are given. -/
theorem selection_past_words :
    ∃ (f : Filter) (b : Batch), f = .alwaysTrue ∧
      b = ⟨.boolean, List.replicate (UInt32.size + 1) (some true)⟩ ∧ b.unsupported? = none ∧
      b.layout.Suits f ∧ b.mask f = .ok (List.replicate (UInt32.size + 1) true) ∧
      b.selection f = .error (.rowOverflow UInt32.size) := by
  let b : Batch := ⟨.boolean, List.replicate (UInt32.size + 1) (some true)⟩
  have hmask : b.mask .alwaysTrue = .ok (List.replicate (UInt32.size + 1) true) := by
    have hslots : b.slots.mapM (testSlot .alwaysTrue b.layout) =
        .ok (List.replicate (UInt32.size + 1) true) := by
      rw [Compile.mapM_eq_ok_iff_map, List.map_replicate, List.map_replicate]
      rfl
    rw [mask_of_unsupported?_eq_none rfl, hslots]
    rfl
  refine ⟨.alwaysTrue, b, rfl, rfl, rfl, (fun _ _ h => nomatch h), hmask, ?_⟩
  obtain ⟨rows, hrows, hselects⟩ := selects_selectedRows hmask
  rcases numbered_or_rowOverflow hrows with
    ⟨numbers, -, rfl⟩ | ⟨row, ⟨before, after, rfl, -, hpast⟩, hselection⟩
  · -- the last row is selected, and has no number
    have hlast : UInt32.size ∈ numbers.map (·.toNat) :=
      (hselects.mem_iff _).mpr (by rw [List.getElem?_replicate, if_pos (Nat.lt_succ_self _)])
    obtain ⟨n, -, hn⟩ := List.mem_map.mp hlast
    exact absurd hn n.toNat_lt_size.ne
  · -- no row comes after the last one
    have hrow : row < UInt32.size + 1 := by
      have hselected := (hselects.mem_iff row).mp (List.mem_append_right _ List.mem_cons_self)
      obtain ⟨hlt, -⟩ := List.getElem?_eq_some_iff.mp hselected
      rwa [List.length_replicate] at hlt
    rw [hselection, Nat.le_antisymm (Nat.le_of_lt_succ hrow) hpast]

end Batch

end ColumnFilter
