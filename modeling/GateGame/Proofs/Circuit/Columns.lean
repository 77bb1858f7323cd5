import GateGame.Circuit.Drawing
import GateGame.Proofs.Text.Lines
import Mathlib.Tactic.IntervalCases

namespace GateGame

/-! The columns of a drawing. All cells are equally wide, so every line is as long as the
others, and what stands in the middle of a column is found by counting. -/

theorem toList_wireName (wire : Nat) : (wireName wire).toList = 'q' :: Nat.toDigits 10 wire := by
  rw [← toList_toString]
  exact String.toList_append

theorem length_wireName (wire : Nat) :
    (wireName wire).length = (Nat.toDigits 10 wire).length + 1 := by
  rw [← String.length_toList, toList_wireName, List.length_cons]

/-- The rows that a gate spans: one of its wires is this row or above it, another one is
below. -/
def Operation.Spans (row : Nat) (operation : Operation Nat) : Prop :=
  ∃ upper ∈ operation.operands, ∃ lower ∈ operation.operands, upper ≤ row ∧ row < lower

instance (row : Nat) (operation : Operation Nat) : Decidable (operation.Spans row) :=
  inferInstanceAs (Decidable
    (∃ upper ∈ operation.operands, ∃ lower ∈ operation.operands, upper ≤ row ∧ row < lower))

namespace Circuit

/-- One column of one line: a mark, and three characters on each side of it. -/
def cell (fill mark : Char) : List Char :=
  List.replicate 3 fill ++ mark :: List.replicate 3 fill

section Cells

variable {fill mark : Char} {place : Nat}

theorem getElem?_cell (h : place < columnWidth) :
    (cell fill mark)[place]? = some (if place = 3 then mark else fill) := by
  rw [columnWidth] at h
  interval_cases place <;> rfl

theorem length_cells (fill : Char) (marks : List Char) :
    (marks.flatMap (cell fill)).length = columnWidth * marks.length := by
  induction marks with
  | nil => rfl
  | cons mark rest ih =>
      rw [List.flatMap_cons, List.length_append, ih, List.length_cons, Nat.mul_succ, Nat.add_comm]
      rfl

theorem getElem?_cells (marks : List Char) (place : Nat) :
    (marks.flatMap (cell fill))[place]? =
      marks[place / columnWidth]?.map fun mark =>
        if place % columnWidth = 3 then mark else fill := by
  have hpos : 0 < columnWidth := by decide
  induction marks generalizing place with
  | nil => rfl
  | cons mark rest ih =>
      have hlength : (cell fill mark).length = columnWidth := rfl
      rw [List.flatMap_cons]
      rcases Nat.lt_or_ge place columnWidth with hlt | hge
      · rw [List.getElem?_append_left (hlength ▸ hlt), getElem?_cell hlt, Nat.div_eq_of_lt hlt,
          Nat.mod_eq_of_lt hlt]
        rfl
      · rw [List.getElem?_append_right (hlength ▸ hge), hlength, ih, Nat.div_eq_sub_div hpos hge,
          Nat.mod_eq_sub_mod hge, List.getElem?_cons_succ]

/-- What stands in the middle of a column. -/
theorem getElem?_cells_middle (marks : List Char) (column : Nat) :
    (marks.flatMap (cell fill))[columnWidth * column + 3]? = marks[column]? := by
  have hcolumn : (columnWidth * column + 3) / columnWidth = column := by
    rw [columnWidth]
    omega
  have hmiddle : (columnWidth * column + 3) % columnWidth = 3 := by
    rw [columnWidth]
    omega
  rw [getElem?_cells, hcolumn, hmiddle]
  cases marks[column]? <;> rfl

theorem mem_cells {c : Char} {marks : List Char} (h : c ∈ marks.flatMap (cell fill)) :
    c = fill ∨ c ∈ marks := by
  obtain ⟨mark, hmark, hcell⟩ := List.mem_flatMap.mp h
  rw [cell, List.mem_append, List.mem_cons, List.mem_replicate] at hcell
  obtain ⟨-, hfill⟩ | rfl | ⟨-, hfill⟩ := hcell
  · exact .inl hfill
  · exact .inr hmark
  · exact .inl hfill

end Cells

/-- A column for each gate, and one for the measurements if there are any. -/
def columns (circuit : Circuit) : Nat :=
  circuit.operations.length + if circuit.measurements.isEmpty then 0 else 1

variable {circuit : Circuit} {row width : Nat}

/-- What a gate shows on a wire. -/
def mark (row : Nat) : Operation Nat → Char
  | .single gate target => if row = target then (Gate.single gate).letter else '─'
  | .pair gate first second =>
      if row = second then (pairSymbols gate).2
      else if row = first then (pairSymbols gate).1
      else '─'

theorem onWire_mark (mark : Char) : onWire [mark] = cell '─' mark := by
  simp [onWire, cell, columnWidth]

theorem onWire_nil : onWire [] = cell '─' '─' := by
  decide

theorem length_onWire (symbol : List Char) : (onWire symbol).length = columnWidth := by
  simp only [onWire, List.length_append, List.length_replicate, List.length_take]
  omega

theorem operationCell_eq (row : Nat) (operation : Operation Nat) :
    operationCell row operation = cell '─' (mark row operation) := by
  cases operation with
  | single gate target =>
      have hname : (Gate.single gate).name.toList = [(Gate.single gate).letter] := by
        cases gate <;> simp [Gate.name, Gate.letter]
      rw [operationCell, mark, hname, onWire_mark, onWire_nil]
      split <;> rfl
  | pair gate first second =>
      rw [operationCell, mark, onWire_mark, onWire_mark, onWire_nil]
      split
      · rfl
      · split <;> rfl

theorem spansBelow_iff (row : Nat) (operation : Operation Nat) :
    spansBelow row operation = true ↔ operation.Spans row := by
  cases operation with
  | single gate target =>
      simp only [spansBelow, Operation.Spans, Operation.operands, List.mem_singleton,
        exists_eq_left, Bool.false_eq_true, false_iff]
      omega
  | pair gate first second =>
      simp only [spansBelow, Operation.Spans, Operation.operands, List.mem_cons,
        List.not_mem_nil, or_false, exists_eq_or_imp, exists_eq_left, Bool.and_eq_true,
        decide_eq_true_eq]
      omega

theorem length_label (h : row < circuit.wires) :
    (label circuit.labelWidth row).length = circuit.labelWidth := by
  have hdigits := length_toDigits_le (Nat.le_sub_one_of_lt h)
  simp only [label, labelWidth, toList_wireName, length_wireName, List.length_append,
    List.length_cons, List.length_nil, List.length_replicate]
  omega

theorem wireLine_eq (circuit : Circuit) (width row : Nat) :
    circuit.wireLine width row =
      label width row ++ ((circuit.operations.map (mark row)).flatMap (cell '─') ++
        if circuit.measurements.isEmpty then []
        else measurementCell row circuit.measurements) := by
  have hcells : circuit.operations.flatMap (operationCell row) =
      (circuit.operations.map (mark row)).flatMap (cell '─') := by
    rw [List.flatMap_map]
    exact congrArg circuit.operations.flatMap (funext (operationCell_eq row))
  rw [wireLine, hcells, List.append_assoc]

theorem length_wireLine (h : row < circuit.wires) :
    (circuit.wireLine circuit.labelWidth row).length =
      circuit.labelWidth + columnWidth * circuit.columns := by
  have hmeasured : (if circuit.measurements.isEmpty then []
      else measurementCell row circuit.measurements).length =
        columnWidth * if circuit.measurements.isEmpty then 0 else 1 := by
    split
    · rfl
    · rw [measurementCell]
      split <;> exact length_onWire _
  rw [wireLine_eq, List.length_append, List.length_append, length_label h, length_cells,
    List.length_map, hmeasured, columns, Nat.mul_add]

/-- On a wire, what a gate shows stands in the middle of its column. -/
theorem getElem?_wireLine (h : row < circuit.wires) {column : Nat} {operation : Operation Nat}
    (hcolumn : circuit.operations[column]? = some operation) :
    (circuit.wireLine circuit.labelWidth row)[circuit.labelWidth + (columnWidth * column + 3)]? =
      some (mark row operation) := by
  have hmarks : ((circuit.operations.map (mark row)).flatMap (cell '─'))[columnWidth * column + 3]? =
      some (mark row operation) := by
    rw [getElem?_cells_middle, List.getElem?_map, hcolumn]
    rfl
  obtain ⟨hlt, -⟩ := List.getElem?_eq_some_iff.mp hmarks
  have hplace : (label circuit.labelWidth row).length ≤
      circuit.labelWidth + (columnWidth * column + 3) := by
    rw [length_label h]
    exact Nat.le_add_right ..
  rw [wireLine_eq, List.getElem?_append_right hplace, length_label h, Nat.add_sub_cancel_left,
    List.getElem?_append_left hlt, hmarks]

/-- What stands between a wire and the next one in the columns. -/
def connectors (circuit : Circuit) (row : Nat) : List Char :=
  circuit.operations.map (fun operation => if operation.Spans row then '│' else ' ') ++
    if circuit.measurements.isEmpty then [] else [' ']

theorem connectorLine_eq (circuit : Circuit) (width row : Nat) :
    circuit.connectorLine width row =
      List.replicate width ' ' ++ (circuit.connectors row).flatMap (cell ' ') := by
  have hcell (operation : Operation Nat) : connectorCell (spansBelow row operation) =
      cell ' ' (if operation.Spans row then '│' else ' ') := by
    simp only [← spansBelow_iff]
    cases spansBelow row operation <;> rfl
  rw [connectorLine, connectors, List.flatMap_append, List.flatMap_map, List.append_assoc]
  congr 2
  · exact congrArg circuit.operations.flatMap (funext hcell)
  · split <;> rfl

theorem length_connectorLine (circuit : Circuit) (width row : Nat) :
    (circuit.connectorLine width row).length = width + columnWidth * circuit.columns := by
  rw [connectorLine_eq, List.length_append, List.length_replicate, length_cells, connectors,
    List.length_append, List.length_map, columns]
  split <;> rfl

theorem mem_connectorLine {c : Char} (h : c ∈ circuit.connectorLine width row) :
    c = '│' ∨ c = ' ' := by
  rw [connectorLine_eq, List.mem_append] at h
  rcases h with hblank | hcells
  · exact .inr (List.eq_of_mem_replicate hblank)
  · rcases mem_cells hcells with hblank | hmem
    · exact .inr hblank
    · rw [connectors, List.mem_append, List.mem_map] at hmem
      obtain ⟨operation, -, rfl⟩ | hmeasured := hmem
      · split <;> simp
      · split at hmeasured <;> simp_all

theorem getElem?_connectors (circuit : Circuit) (row column : Nat) :
    (circuit.connectors row)[column]? = some '│' ↔
      ∃ operation, circuit.operations[column]? = some operation ∧ operation.Spans row := by
  rw [connectors, List.getElem?_append, List.length_map]
  split
  · next hlt =>
    rw [List.getElem?_map, List.getElem?_eq_getElem hlt, Option.map_some, Option.some_inj]
    simp
  · next hge =>
    have hnone := List.getElem?_eq_none (Nat.not_lt.mp hge)
    rw [hnone]
    split <;> simp [List.getElem?_singleton]

/-- The bars of a line of connectors stand in the columns of the gates that span it. -/
theorem getElem?_connectorLine (circuit : Circuit) (width row place : Nat) :
    (circuit.connectorLine width row)[place]? = some '│' ↔
      ∃ column operation, circuit.operations[column]? = some operation ∧ operation.Spans row ∧
        place = width + (columnWidth * column + 3) := by
  rw [connectorLine_eq]
  rcases Nat.lt_or_ge place width with hlt | hge
  · rw [List.getElem?_append_left (by simpa using hlt), List.getElem?_replicate, if_pos hlt]
    constructor
    · intro h
      cases h
    · rintro ⟨column, operation, -, -, hplace⟩
      omega
  · obtain ⟨offset, rfl⟩ := Nat.exists_eq_add_of_le hge
    have hpast : (List.replicate width ' ').length ≤ width + offset := by simp
    rw [List.getElem?_append_right hpast, List.length_replicate, Nat.add_sub_cancel_left,
      getElem?_cells]
    constructor
    · intro h
      obtain ⟨mark, hmark, hbar⟩ := Option.map_eq_some_iff.mp h
      split at hbar
      · next hmiddle =>
        obtain ⟨operation, hoperation, hspans⟩ :=
          (getElem?_connectors circuit row _).mp (hbar ▸ hmark)
        refine ⟨offset / columnWidth, operation, hoperation, hspans, ?_⟩
        rw [← hmiddle, Nat.div_add_mod]
      · cases hbar
    · rintro ⟨column, operation, hoperation, hspans, hplace⟩
      obtain rfl := Nat.add_left_cancel hplace
      rw [← getElem?_cells, getElem?_cells_middle]
      exact (getElem?_connectors circuit row column).mpr ⟨operation, hoperation, hspans⟩

/-- A wire has a line of connectors below it just if a gate spans it and the next wire. -/
theorem rowLines_eq (circuit : Circuit) (width row : Nat) :
    circuit.rowLines width row =
      if row + 1 < circuit.wires ∧ ∃ operation ∈ circuit.operations, operation.Spans row then
        [circuit.wireLine width row, circuit.connectorLine width row]
      else [circuit.wireLine width row] := by
  rw [rowLines]
  simp only [List.any_eq_true, spansBelow_iff]

end Circuit

end GateGame
