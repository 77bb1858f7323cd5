import GateGame.Circuit.Draft
import GateGame.Proofs.Circuit.Fits
import Mathlib.Data.List.TakeWhile

namespace GateGame

/-! Operations that are added many at a time, to a circuit or to a draft. Whether one is
refused depends on the registers alone, so what is added is known from the list: all up to
the first one that an empty circuit would refuse. -/

namespace Circuit

/-- The error with which an operation is refused. -/
def refusal? (circuit : Circuit) (operation : Operation Nat) : Option Error :=
  match circuit.add operation with
  | .ok _ => none
  | .error error => some error

theorem add_eq (circuit : Circuit) (operation : Operation Nat) :
    circuit.add operation =
      match circuit.refusal? operation with
      | some error => .error error
      | none => .ok { circuit with operations := circuit.operations ++ [operation] } := by
  rw [refusal?]
  cases hadd : circuit.add operation with
  | ok after => rw [eq_of_add hadd]
  | error error => rfl

theorem refusal?_eq_none_iff (circuit : Circuit) (operation : Operation Nat) :
    circuit.refusal? operation = none ↔ operation.Fits circuit.wires := by
  rw [← exists_add_iff, refusal?]
  cases circuit.add operation <;> simp

/-- What a circuit holds already does not matter. -/
theorem refusal?_eq_of_wires {circuit circuit' : Circuit} (h : circuit.wires = circuit'.wires) :
    circuit.refusal? = circuit'.refusal? := by
  funext operation
  rw [refusal?, refusal?, add, add, h]
  cases checkOperation circuit'.wires operation <;> rfl

theorem refusal?_append (circuit : Circuit) (operations : List (Operation Nat)) :
    refusal? { circuit with operations := circuit.operations ++ operations } =
      circuit.refusal? :=
  refusal?_eq_of_wires rfl

theorem addAll_eq (circuit : Circuit) (operations : List (Operation Nat)) :
    circuit.addAll operations =
      ({ circuit with
          operations := circuit.operations ++
            operations.takeWhile fun operation => (circuit.refusal? operation).isNone },
        operations.findSome? circuit.refusal?) := by
  induction operations generalizing circuit with
  | nil => simp [addAll]
  | cons operation rest ih =>
      rw [addAll, add_eq, List.takeWhile_cons, List.findSome?_cons]
      cases circuit.refusal? operation with
      | none =>
          simp only [ih, refusal?_append, Option.isNone_none, if_true, List.append_assoc,
            List.singleton_append]
      | some error => simp

theorem fits_of_mem_accepted (circuit : Circuit) (operations : List (Operation Nat)) :
    ∀ operation ∈ operations.takeWhile fun operation => (circuit.refusal? operation).isNone,
      operation.Fits circuit.wires := by
  intro operation hmem
  have haccepted := List.mem_takeWhile_imp hmem
  exact (refusal?_eq_none_iff circuit operation).mp (Option.isNone_iff_eq_none.mp haccepted)

/-- Adding one by one, and giving up at the first error. -/
theorem foldlM_add_eq (circuit : Circuit) (operations : List (Operation Nat)) :
    operations.foldlM add circuit =
      match operations.findSome? circuit.refusal? with
      | some error => .error error
      | none => .ok { circuit with operations := circuit.operations ++ operations } := by
  induction operations generalizing circuit with
  | nil => simp; rfl
  | cons operation rest ih =>
      rw [List.foldlM_cons, add_eq, List.findSome?_cons]
      cases circuit.refusal? operation with
      | none =>
          rw [ok_bind, ih, refusal?_append]
          simp only [List.append_assoc, List.singleton_append]
      | some error => rfl

theorem takeWhile_eq_self_iff {α β : Type} {f : α → Option β} {l : List α} :
    (l.takeWhile fun a => (f a).isNone) = l ↔ l.findSome? f = none := by
  rw [List.takeWhile_eq_self_iff, List.findSome?_eq_none_iff]
  simp

end Circuit

namespace Draft

/-- The calls that change a draft. -/
inductive Call where
  | withBits (bits : Nat)
  | add (operation : Operation Nat)
  | addAll (operations : List (Operation Nat))
  | measureAll
  deriving DecidableEq

def Call.bits? : Call → Option Nat
  | .withBits bits => some bits
  | .add _ | .addAll _ | .measureAll => none

def Call.operations : Call → List (Operation Nat)
  | .add operation => [operation]
  | .addAll operations => operations
  | .withBits _ | .measureAll => []

def call (draft : Draft) : Call → Draft
  | .withBits bits => draft.withBits bits
  | .add operation => draft.add operation
  | .addAll operations => draft.addAll operations
  | .measureAll => draft.measureAll

def callAll (draft : Draft) (calls : List Call) : Draft :=
  calls.foldl call draft

/-- The order in which a draft was written down shows in the operations only. -/
theorem callAll_eq (draft : Draft) (calls : List Call) :
    draft.callAll calls =
      { wires := draft.wires
        bits := (calls.reverse.findSome? Call.bits?).getD draft.bits
        operations := draft.operations ++ calls.flatMap Call.operations
        measured := draft.measured || decide (.measureAll ∈ calls) } := by
  induction calls generalizing draft with
  | nil => simp [callAll]
  | cons first rest ih =>
      have hrest : draft.callAll (first :: rest) = (draft.call first).callAll rest := rfl
      rw [hrest, ih]
      cases first <;>
        simp [call, Call.bits?, Call.operations, withBits, Draft.add, Draft.addAll,
          Draft.measureAll, List.findSome?_append]

theorem build_eq (draft : Draft) :
    draft.build =
      (fun circuit => if draft.measured then circuit.measureAll else circuit) <$>
        draft.operations.foldlM Circuit.add (Circuit.empty draft.wires draft.bits) := by
  rw [build, Circuit.addAll_eq, Circuit.foldlM_add_eq]
  cases hfault : draft.operations.findSome? (Circuit.empty draft.wires draft.bits).refusal? with
  | some error => rfl
  | none => rw [Circuit.takeWhile_eq_self_iff.mpr hfault, ok_map]

theorem build_callAll (wires : Nat) (calls : List Call) :
    ((ofWires wires).callAll calls).build =
      (fun circuit => if .measureAll ∈ calls then circuit.measureAll else circuit) <$>
        (calls.flatMap Call.operations).foldlM Circuit.add
          (Circuit.empty wires ((calls.reverse.findSome? Call.bits?).getD wires)) := by
  rw [build_eq, callAll_eq]
  simp [ofWires]

end Draft

namespace Circuit

/-- Adding many operations at once appends all up to the first one that an empty circuit
with the same registers would refuse, and fails with its error; nothing else is changed. A
draft, whatever the order of the calls that it comes from, is built if an empty circuit
would refuse none of its operations, and fails with the error of the first that it would.
What is built is what comes of adding the operations in turn to an empty circuit with as
many bits as was said last, and measuring all of it once at the end if that was asked
for. -/
theorem addAll_and_build :
    (∀ (circuit : Circuit) (operations : List (Operation Nat)),
      let fresh := empty circuit.wires circuit.bits
      let accepted := operations.takeWhile fun operation => (fresh.refusal? operation).isNone
      circuit.refusal? = fresh.refusal? ∧
      circuit.addAll operations =
        ({ circuit with operations := circuit.operations ++ accepted },
          operations.findSome? fresh.refusal?) ∧
      ((circuit.addAll operations).2 = none ↔ accepted = operations)) ∧
    ∀ (wires : Nat) (calls : List Draft.Call),
      let operations := calls.flatMap Draft.Call.operations
      let fresh := empty wires ((calls.reverse.findSome? Draft.Call.bits?).getD wires)
      let built := ((Draft.ofWires wires).callAll calls).build
      ((∃ circuit, built = .ok circuit) ↔
        ∀ operation ∈ operations, fresh.refusal? operation = none) ∧
      built = (fun circuit => if .measureAll ∈ calls then circuit.measureAll else circuit) <$>
        operations.foldlM add fresh ∧
      ∀ error, built = .error error ↔ operations.findSome? fresh.refusal? = some error := by
  refine ⟨fun circuit operations => ?_, fun wires calls => ?_⟩
  · intro fresh accepted
    have hfresh : circuit.refusal? = fresh.refusal? := refusal?_eq_of_wires rfl
    have hadded := addAll_eq circuit operations
    rw [hfresh] at hadded
    refine ⟨hfresh, hadded, ?_⟩
    rw [hadded]
    exact takeWhile_eq_self_iff.symm
  · intro operations fresh built
    have hbuilt : built =
        (fun circuit => if .measureAll ∈ calls then circuit.measureAll else circuit) <$>
          operations.foldlM add fresh := Draft.build_callAll wires calls
    refine ⟨?_, hbuilt, fun error => ?_⟩
    · rw [← List.findSome?_eq_none_iff, hbuilt, foldlM_add_eq]
      cases operations.findSome? fresh.refusal? <;> simp
    · rw [hbuilt, foldlM_add_eq]
      cases operations.findSome? fresh.refusal? <;> simp

/-- The second of three operations names a wire twice. The circuit keeps the first, and the
draft, which was given them in two calls with other calls between, is not built. -/
theorem addAll_and_build_repeated_wire :
    let operations : List (Operation Nat) :=
      [.single .hadamard 0, .pair .swap 1 1, .single .pauliX 5]
    let error : Error := .simulation (.wireRepeated (.pair .swap) 1)
    (⟨2, 1, [.single .pauliZ 1], [⟨0, 0⟩]⟩ : Circuit).addAll operations =
      (⟨2, 1, [.single .pauliZ 1, .single .hadamard 0], [⟨0, 0⟩]⟩, some error) ∧
    ((Draft.ofWires 2).callAll
      [.measureAll, .addAll (operations.take 2), .withBits 1, .addAll (operations.drop 2)]).build =
        .error error := by
  intro operations error
  obtain ⟨hadded, hbuilt⟩ := addAll_and_build
  obtain ⟨-, hadded, -⟩ := hadded ⟨2, 1, [.single .pauliZ 1], [⟨0, 0⟩]⟩ operations
  obtain ⟨-, -, herror⟩ := hbuilt 2
    [.measureAll, .addAll (operations.take 2), .withBits 1, .addAll (operations.drop 2)]
  exact ⟨hadded, (herror error).mpr rfl⟩

end Circuit

end GateGame
