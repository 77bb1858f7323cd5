import GateGame.Proofs.Circuit.Built
import GateGame.Proofs.Circuit.Columns
import Mathlib.Data.List.Forall2

namespace GateGame

/-! Circuits read back from their drawings. The header tells how many gates there are, the
lines that begin with the name of a wire are the wires, and the marks in a column belong to
one gate only. What a drawing does not show is which wire of an exchange is named first. -/

/-- The same operation, or an exchange of the same wires, which may be named in either
order. -/
inductive Operation.SameGate : Operation Nat → Operation Nat → Prop
  | refl (operation : Operation Nat) : SameGate operation operation
  | exchanged (first second : Nat) : SameGate (.pair .swap first second) (.pair .swap second first)

namespace Circuit

variable {circuit circuit' : Circuit} {row width : Nat}

section Marks

variable {operation operation' : Operation Nat} {gate : PairGate} {first second : Nat}

theorem mark_ne_iff (row : Nat) (operation : Operation Nat) :
    mark row operation ≠ '─' ↔ row ∈ operation.operands := by
  cases operation with
  | single gate target =>
      have hletter : (Gate.single gate).letter ≠ '─' := by cases gate <;> decide
      rw [mark, Operation.operands, List.mem_singleton]
      split <;> simp [*]
  | pair gate first second =>
      have hsymbols : (pairSymbols gate).1 ≠ '─' ∧ (pairSymbols gate).2 ≠ '─' := by
        cases gate <;> decide
      rw [mark, Operation.operands, List.mem_cons, List.mem_singleton]
      split
      · simp [*]
      · split <;> simp [*]

theorem mark_first (h : first ≠ second) (gate : PairGate) :
    mark first (.pair gate first second) = (pairSymbols gate).1 := by
  rw [mark, if_neg h, if_pos rfl]

theorem mark_second (gate : PairGate) (first second : Nat) :
    mark second (.pair gate first second) = (pairSymbols gate).2 := by
  rw [mark, if_pos rfl]

/-- Two gates on two wires each that have the same wires. -/
theorem pair_perm_pair {first' second' : Nat} (hne : first ≠ second)
    (h : [first, second].Perm [first', second']) :
    first = first' ∧ second = second' ∨ first = second' ∧ second = first' := by
  have hfirst : first = first' ∨ first = second' := by simpa using h.mem_iff.mp (by simp)
  have hsecond : second = first' ∨ second = second' := by simpa using h.mem_iff.mp (by simp)
  omega

/-- The marks of a column belong to one gate only, up to the order in which an exchange
names its wires. -/
theorem sameGate_of_mark {wires : Nat} (hfits : operation.Fits wires)
    (hfits' : operation'.Fits wires)
    (h : ∀ row < wires, mark row operation = mark row operation') :
    operation.SameGate operation' := by
  have hperm : operation.operands.Perm operation'.operands := by
    rw [List.perm_ext_iff_of_nodup hfits.2 hfits'.2]
    intro row
    constructor
    · intro hmem
      rwa [← mark_ne_iff, ← h row (hfits.1 row hmem), mark_ne_iff]
    · intro hmem
      rwa [← mark_ne_iff, h row (hfits'.1 row hmem), mark_ne_iff]
  cases operation with
  | single gate target =>
      cases operation' with
      | single gate' target' =>
          obtain rfl : target = target' := List.singleton_perm_singleton.mp hperm
          have hletter := h target (Operation.fits_single.mp hfits)
          rw [mark, mark, if_pos rfl, if_pos rfl] at hletter
          obtain rfl : gate = gate' := by cases gate <;> cases gate' <;> first | rfl | cases hletter
          exact .refl _
      | pair gate' first' second' => cases hperm.length_eq
  | pair gate first second =>
      obtain ⟨hlt, -, hne⟩ := Operation.fits_pair.mp hfits
      have hfirst := h first hlt
      rw [mark_first hne] at hfirst
      cases operation' with
      | single gate' target' => cases hperm.length_eq
      | pair gate' first' second' =>
          obtain ⟨rfl, rfl⟩ | ⟨rfl, rfl⟩ := pair_perm_pair hne hperm
          · rw [mark_first hne] at hfirst
            obtain rfl : gate = gate' := by
              cases gate <;> cases gate' <;> first | rfl | cases hfirst
            exact .refl _
          · rw [mark_second] at hfirst
            -- Only an exchange shows the same on both of its wires.
            cases gate <;> cases gate' <;> first | exact .exchanged _ _ | cases hfirst

end Marks

section Rows

theorem newline_not_mem_onWire {symbol : List Char} (h : '\n' ∉ symbol) : '\n' ∉ onWire symbol := by
  intro hmem
  simp only [onWire, List.mem_append, List.mem_replicate] at hmem
  rcases hmem with (⟨-, hdash⟩ | htaken) | ⟨-, hdash⟩
  · cases hdash
  · exact h (List.mem_of_mem_take htaken)
  · cases hdash

theorem newline_ne_mark (row : Nat) (operation : Operation Nat) : '\n' ≠ mark row operation := by
  cases operation with
  | single gate target =>
      rw [mark]
      split
      · cases gate <;> decide
      · decide
  | pair gate first second =>
      rw [mark]
      split
      · cases gate <;> decide
      · split
        · cases gate <;> decide
        · decide

theorem newline_not_mem_wireLine (circuit : Circuit) (width row : Nat) :
    '\n' ∉ circuit.wireLine width row := by
  have hlabel : '\n' ∉ label width row := by
    simp [label, toList_wireName, not_mem_toDigits (c := '\n') rfl]
  have hmarks : '\n' ∉ (circuit.operations.map (mark row)).flatMap (cell '─') := by
    intro hmem
    rcases mem_cells hmem with hdash | hmark
    · cases hdash
    · obtain ⟨operation, -, hmark⟩ := List.mem_map.mp hmark
      exact newline_ne_mark row operation hmark.symm
  have hmeasured : '\n' ∉ measurementCell row circuit.measurements := by
    rw [measurementCell]
    split
    · apply newline_not_mem_onWire
      rw [List.mem_cons, not_or]
      exact ⟨by decide, not_mem_toDigits rfl _⟩
    · exact newline_not_mem_onWire List.not_mem_nil
  rw [wireLine_eq, List.mem_append, List.mem_append, not_or, not_or]
  refine ⟨hlabel, hmarks, ?_⟩
  split
  · exact List.not_mem_nil
  · exact hmeasured

theorem newline_not_mem_connectorLine (circuit : Circuit) (width row : Nat) :
    '\n' ∉ circuit.connectorLine width row := by
  intro hmem
  rcases mem_connectorLine hmem with hbar | hblank
  · cases hbar
  · cases hblank

theorem toList_header (circuit : Circuit) :
    circuit.header.toList =
      "qcards::Circuit[".toList ++ (Nat.toDigits 10 circuit.operations.length ++
        (" operations on ".toList ++ (Nat.toDigits 10 circuit.wires ++
          (" qubits, ".toList ++ (Nat.toDigits 10 circuit.measurements.length ++
            " measurements]".toList))))) := by
  unfold header
  simp only [String.toList_append, List.append_assoc, ← toList_toString]
  rfl

theorem newline_not_mem_header (circuit : Circuit) : '\n' ∉ circuit.header.toList := by
  have hdigits (n : Nat) : '\n' ∉ Nat.toDigits 10 n := not_mem_toDigits rfl n
  simp only [toList_header, List.mem_append, hdigits, false_or]
  decide

theorem length_operations_of_header (h : circuit.header = circuit'.header) :
    circuit.operations.length = circuit'.operations.length := by
  have hchars := congrArg String.toList h
  rw [toList_header, toList_header] at hchars
  have hblank (n : Nat) : ' ' ∉ Nat.toDigits 10 n := not_mem_toDigits rfl n
  obtain ⟨hdigits, -⟩ :=
    append_cons_inj (hblank _) (hblank _) (List.append_cancel_left hchars)
  exact toDigits_inj hdigits

theorem newline_not_mem_drawingLines (circuit : Circuit) :
    ∀ line ∈ circuit.drawingLines, '\n' ∉ line := by
  intro line hline
  rcases List.mem_cons.mp hline with rfl | hrow
  · exact circuit.newline_not_mem_header
  · obtain ⟨row, -, hrow⟩ := List.mem_flatMap.mp hrow
    have hwire := circuit.newline_not_mem_wireLine circuit.labelWidth row
    have hconnector := circuit.newline_not_mem_connectorLine circuit.labelWidth row
    rw [rowLines] at hrow
    split at hrow
    · simp only [List.mem_cons, List.not_mem_nil, or_false] at hrow
      rcases hrow with rfl | rfl
      · exact hwire
      · exact hconnector
    · exact (List.mem_singleton.mp hrow) ▸ hwire

theorem drawingLines_eq_of_drawing (h : circuit.drawing = circuit'.drawing) :
    circuit.drawingLines = circuit'.drawingLines :=
  lines_inj circuit.newline_not_mem_drawingLines circuit'.newline_not_mem_drawingLines
    (String.ofList_injective h)

/-- The lines of wires begin with a name, and the others with blanks. -/
theorem filter_rowLines (circuit : Circuit) (row : Nat) :
    (circuit.rowLines circuit.labelWidth row).filter (·.head? = some 'q') =
      [circuit.wireLine circuit.labelWidth row] := by
  have hwire : (circuit.wireLine circuit.labelWidth row).head? = some 'q' := by
    rw [wireLine_eq, label, toList_wireName]
    rfl
  have hconnector : (circuit.connectorLine circuit.labelWidth row).head? ≠ some 'q' := by
    rw [connectorLine_eq, labelWidth]
    simp [List.replicate_succ]
  rw [rowLines]
  split <;> simp [hwire, hconnector]

theorem filter_drawingLines (circuit : Circuit) :
    circuit.drawingLines.tail.filter (·.head? = some 'q') =
      (List.range circuit.wires).map (circuit.wireLine circuit.labelWidth) := by
  rw [drawingLines, List.tail_cons, List.filter_flatMap, List.map_eq_flatMap]
  exact congrArg (List.range circuit.wires).flatMap (funext circuit.filter_rowLines)

theorem wireLine_eq_of_drawing (h : circuit.drawing = circuit'.drawing) :
    circuit.wires = circuit'.wires ∧ ∀ row < circuit.wires,
      circuit.wireLine circuit.labelWidth row = circuit'.wireLine circuit'.labelWidth row := by
  have hlines : (List.range circuit.wires).map (circuit.wireLine circuit.labelWidth) =
      (List.range circuit'.wires).map (circuit'.wireLine circuit'.labelWidth) := by
    rw [← filter_drawingLines, ← filter_drawingLines, drawingLines_eq_of_drawing h]
  have hwires : circuit.wires = circuit'.wires := by
    simpa using congrArg List.length hlines
  refine ⟨hwires, fun row hrow => ?_⟩
  rw [← hwires] at hlines
  exact List.map_inj_left.mp hlines row (List.mem_range.mpr hrow)

theorem operations_of_drawing (hformed : circuit.WellFormed) (hformed' : circuit'.WellFormed)
    (h : circuit.drawing = circuit'.drawing) :
    List.Forall₂ Operation.SameGate circuit.operations circuit'.operations := by
  have hlength : circuit.operations.length = circuit'.operations.length := by
    apply length_operations_of_header
    exact String.toList_injective (List.cons.inj (drawingLines_eq_of_drawing h)).1
  obtain ⟨hwires, hlines⟩ := wireLine_eq_of_drawing h
  rw [List.forall₂_iff_get]
  refine ⟨hlength, fun column hcolumn hcolumn' => ?_⟩
  apply sameGate_of_mark (hformed.operations _ (List.get_mem ..))
    (hwires ▸ hformed'.operations _ (List.get_mem ..))
  intro row hrow
  have hmark := getElem?_wireLine hrow (List.getElem?_eq_getElem hcolumn)
  have hmark' := getElem?_wireLine (hwires ▸ hrow) (List.getElem?_eq_getElem hcolumn')
  have hwidth : circuit.labelWidth = circuit'.labelWidth := by rw [labelWidth, labelWidth, hwires]
  rw [hlines row hrow, hwidth, hmark'] at hmark
  exact (Option.some.inj hmark).symm

end Rows

section SameGates

variable {operation operation' : Operation Nat}

theorem mark_of_sameGate (h : operation.SameGate operation') (row : Nat) :
    mark row operation = mark row operation' := by
  cases h with
  | refl => rfl
  | exchanged first second =>
      rw [mark, mark, pairSymbols]
      split <;> split <;> rfl

theorem spansBelow_of_sameGate (h : operation.SameGate operation') (row : Nat) :
    spansBelow row operation = spansBelow row operation' := by
  cases h with
  | refl => rfl
  | exchanged first second => rw [spansBelow, spansBelow, Nat.min_comm, Nat.max_comm]

theorem map_of_sameGate {β : Type} {f : Operation Nat → β}
    {operations operations' : List (Operation Nat)}
    (hf : ∀ operation operation', operation.SameGate operation' → f operation = f operation')
    (h : List.Forall₂ Operation.SameGate operations operations') :
    operations.map f = operations'.map f := by
  induction h with
  | nil => rfl
  | cons hfirst _ ih => rw [List.map_cons, List.map_cons, hf _ _ hfirst, ih]

/-- Nothing of a drawing depends on which wire of an exchange is named first. -/
theorem drawing_of_sameGate {operations : List (Operation Nat)}
    (h : List.Forall₂ Operation.SameGate circuit.operations operations) :
    circuit.drawing = drawing { circuit with operations } := by
  have hmarks (row : Nat) : circuit.operations.map (mark row) = operations.map (mark row) :=
    map_of_sameGate (fun _ _ hsame => mark_of_sameGate hsame row) h
  have hspans (row : Nat) :
      circuit.operations.map (spansBelow row) = operations.map (spansBelow row) :=
    map_of_sameGate (fun _ _ hsame => spansBelow_of_sameGate hsame row) h
  have hheader : circuit.header = header { circuit with operations } := by
    unfold header
    rw [h.length_eq]
  have hrows (width : Nat) :
      circuit.rowLines width = rowLines { circuit with operations } width := by
    funext row
    have hany : circuit.operations.any (spansBelow row) = operations.any (spansBelow row) := by
      simpa [List.any_map] using congrArg (List.any · id) (hspans row)
    have hconnectors :
        circuit.operations.flatMap (fun operation => connectorCell (spansBelow row operation)) =
          operations.flatMap fun operation => connectorCell (spansBelow row operation) := by
      simpa only [List.flatMap_map] using congrArg (List.flatMap connectorCell) (hspans row)
    simp only [rowLines, wireLine_eq, connectorLine, hmarks, hany, hconnectors]
  rw [drawing, drawing, drawingLines, drawingLines, hheader, hrows]
  rfl

end SameGates

/-- The drawing of a circuit that can be built. After the header comes one line for each
wire in turn, and a line of connectors below it if there is a wire below and a gate that
spans the two. All these lines are as long as the label and the columns together. The bars
of the connectors stand in the middle of the columns of the gates that span the two wires,
and nothing else stands between them. From the drawing the number of wires and the gates
can be read back, up to which wire of an exchange is named first, and on that it does not
depend. -/
theorem drawing_faithful (hbuilt : circuit.Built) :
    let length := circuit.labelWidth + columnWidth * circuit.columns
    let wireLine := circuit.wireLine circuit.labelWidth
    let connectorLine := circuit.connectorLine circuit.labelWidth
    circuit.drawing.toList =
      (circuit.header.toList :: (List.range circuit.wires).flatMap fun row =>
        if row + 1 < circuit.wires ∧ ∃ operation ∈ circuit.operations, operation.Spans row then
          [wireLine row, connectorLine row]
        else [wireLine row]).flatMap (· ++ ['\n']) ∧
    (∀ row < circuit.wires,
      (wireLine row).length = length ∧ (connectorLine row).length = length) ∧
    (∀ row < circuit.wires,
      (∀ c ∈ connectorLine row, c = '│' ∨ c = ' ') ∧
      ∀ place, (connectorLine row)[place]? = some '│' ↔
        ∃ column operation, circuit.operations[column]? = some operation ∧
          operation.Spans row ∧ place = circuit.labelWidth + (columnWidth * column + 3)) ∧
    (∀ other : Circuit, other.Built → circuit.drawing = other.drawing →
      circuit.wires = other.wires ∧
      List.Forall₂ Operation.SameGate circuit.operations other.operations) ∧
    ∀ operations, List.Forall₂ Operation.SameGate circuit.operations operations →
      circuit.drawing = drawing { circuit with operations } := by
  intro length wireLine connectorLine
  refine ⟨?_, fun row hrow => ?_, fun row hrow => ?_, fun other hother hdrawing => ?_,
    fun operations => drawing_of_sameGate⟩
  · rw [drawing, String.toList_ofList, drawingLines]
    exact congrArg (fun rows => ((circuit.header.toList ::
      (List.range circuit.wires).flatMap rows).flatMap (· ++ ['\n'])))
      (funext (circuit.rowLines_eq circuit.labelWidth))
  · exact ⟨length_wireLine hrow, length_connectorLine ..⟩
  · exact ⟨fun c => mem_connectorLine, getElem?_connectorLine circuit circuit.labelWidth row⟩
  · exact ⟨(wireLine_eq_of_drawing hdrawing).1,
      operations_of_drawing hbuilt.wellFormed hother.wellFormed hdrawing⟩

/-- On eleven wires the names of the wires are not equally long. The drawing does not show
that one circuit exchanges the wires 8 and 9 and the other 9 and 8. Of the gates only the
controlled one spans the last two wires, so its bar is the only one between them. -/
theorem drawing_faithful_eleven_wires :
    let circuit : Circuit := ⟨11, 1, [.pair .controlledNot 10 8, .pair .swap 8 9], [⟨10, 0⟩]⟩
    let other : Circuit := ⟨11, 1, [.pair .controlledNot 10 8, .pair .swap 9 8], [⟨10, 0⟩]⟩
    circuit.Built ∧ other.Built ∧ circuit.drawing = other.drawing ∧
      List.Forall₂ Operation.SameGate circuit.operations other.operations ∧
      ∀ place, (circuit.connectorLine circuit.labelWidth 9)[place]? = some '│' ↔ place = 8 := by
  intro circuit other
  have hmeasured {after : Circuit} (gates : List (Operation Nat))
      (h : ((empty 11 1).addAll gates).1.measure 10 0 = .ok after) : after.Built :=
    .measure (.addAll (.empty 11 1) gates) h
  have hbuilt : circuit.Built := hmeasured [.pair .controlledNot 10 8, .pair .swap 8 9] rfl
  have hother : other.Built := hmeasured [.pair .controlledNot 10 8, .pair .swap 9 8] rfl
  obtain ⟨-, -, hbars, hgates, hsame⟩ := drawing_faithful hbuilt
  have hdrawing : circuit.drawing = other.drawing :=
    hsame _ (.cons (.refl _) (.cons (.exchanged 8 9) .nil))
  refine ⟨hbuilt, hother, hdrawing, (hgates other hother hdrawing).2, fun place => ?_⟩
  rw [(hbars 9 (by decide)).2]
  constructor
  · rintro ⟨column, operation, hcolumn, hspans, rfl⟩
    match column, hcolumn with
    | 0, _ => decide
    | 1, hcolumn =>
        obtain rfl := Option.some.inj hcolumn
        exact absurd hspans (by decide)
  · rintro rfl
    exact ⟨0, .pair .controlledNot 10 8, rfl, by decide, by decide⟩

end Circuit

end GateGame
