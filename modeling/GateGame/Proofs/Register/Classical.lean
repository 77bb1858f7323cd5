import GateGame.Proofs.Amplitude.Marks
import GateGame.Proofs.Register.Wave

namespace GateGame

open Function (update)

/-! Operations without Hadamard gates. They take definite values to definite values,
and a state that is a single basis state to another one, up to its phase. -/

/-- What an operation does to definite values. X and Y flip a value, the identity and
Z leave it alone, a controlled-NOT adds the first value to the second, and a swap
exchanges them. A Hadamard gate has no such meaning. -/
def Operation.classical (values : Nat → Bool) : Operation Nat → Nat → Bool
  | .single .pauliX target | .single .pauliY target => update values target (!values target)
  | .single _ _ => values
  | .pair .controlledNot control target =>
      update values target (values target ^^ values control)
  | .pair .swap first second => update (update values first (values second)) second (values first)

def Operation.classicalAll (values : Nat → Bool) (operations : List (Operation Nat)) :
    Nat → Bool :=
  operations.foldl classical values

def Operation.IsClassical (operation : Operation Nat) : Prop :=
  operation.gate ≠ .single .hadamard

/-- The value that a gate on one wire takes to the value given. -/
def SingleGate.source : SingleGate → Bool → Bool
  | .pauliX, row | .pauliY, row => !row
  | _, row => row

theorem SingleGate.classical_eq {gate : SingleGate} (hgate : gate ≠ .hadamard)
    (values : Nat → Bool) (target : Nat) :
    Operation.classical values (.single gate target) =
      update values target (gate.source (values target)) := by
  cases gate with
  | hadamard => exact absurd rfl hgate
  | identity => exact (Function.update_eq_self target values).symm
  | pauliX => rfl
  | pauliY => rfl
  | pauliZ => exact (Function.update_eq_self target values).symm

theorem PairGate.classical_eq (gate : PairGate) (values : Nat → Bool) (first second : Nat) :
    Operation.classical values (.pair gate first second) =
      update (update values first (gate.image (values first, values second)).1) second
        (gate.image (values first, values second)).2 := by
  cases gate with
  | controlledNot =>
      simp only [image, Function.update_eq_self, Bool.xor_comm (values first)]
      rfl
  | swap => rfl

theorem PairGate.image_image (gate : PairGate) (values : Bool × Bool) :
    gate.image (gate.image values) = values := by
  obtain ⟨first, second⟩ := values
  cases gate <;> simp [image]

def Agree (wires : Nat) (values values' : Nat → Bool) : Prop :=
  ∀ wire < wires, values wire = values' wire

instance {wires : Nat} (values values' : Nat → Bool) : Decidable (Agree wires values values') :=
  inferInstanceAs (Decidable (∀ wire < wires, values wire = values' wire))

theorem agree_update {wires : Nat} {values values' : Nat → Bool} (h : Agree wires values values')
    (target : Nat) (value : Bool) :
    Agree wires (update values target value) (update values' target value) := by
  intro wire hwire
  rcases eq_or_ne wire target with rfl | hne
  · simp
  · simp [hne, h wire hwire]

namespace Operation

variable {wires : Nat} {operation : Operation Nat}

theorem classical_classical (h : operation.Fits wires) (values : Nat → Bool) :
    classical (classical values operation) operation = values := by
  cases operation with
  | single gate target => cases gate <;> simp [classical]
  | pair gate first second =>
      obtain ⟨-, -, hne⟩ := fits_pair.mp h
      have hfirst (a b : Bool) : update (update values first a) second b first = a := by
        simp [hne]
      rw [PairGate.classical_eq, PairGate.classical_eq, hfirst]
      simp only [Function.update_self, Prod.mk.eta, PairGate.image_image]
      rw [Function.update_comm hne, Function.update_idem, Function.update_comm hne.symm,
        Function.update_idem, Function.update_eq_self, Function.update_eq_self]

theorem classical_agree {values values' : Nat → Bool} (h : Agree wires values values')
    (hfits : operation.Fits wires) :
    Agree wires (classical values operation) (Operation.classical values' operation) := by
  cases operation with
  | single gate target =>
      have htarget := h target (fits_single.mp hfits)
      cases gate <;> simp only [Operation.classical, htarget] <;>
        first | exact h | exact agree_update h target _
  | pair gate first second =>
      obtain ⟨hfirst, hsecond, -⟩ := fits_pair.mp hfits
      cases gate <;> simp only [Operation.classical, h first hfirst, h second hsecond]
      · exact agree_update h second _
      · exact agree_update (agree_update h first _) second _

theorem agree_classical_iff (hfits : operation.Fits wires) {values values' : Nat → Bool} :
    Agree wires (classical values operation) values' ↔
      Agree wires values (classical values' operation) := by
  constructor
  · intro h
    have hback := classical_agree h hfits
    rwa [classical_classical hfits] at hback
  · intro h
    have hback := classical_agree h hfits
    rwa [classical_classical hfits] at hback

end Operation

section Marks

variable {α : Type} [Scalar α]

open Amplitude

theorem SingleGate.marks_entry {gate : SingleGate} (hgate : gate ≠ .hadamard)
    (row column : Bool) [ExactUnits α] :
    (gate.entry row column : Amplitude α).Marks (decide (column = gate.source row)) := by
  cases gate with
  | hadamard => exact absurd rfl hgate
  | identity => cases row <;> cases column <;> first | exact marks_one | exact marks_zero
  | pauliX => cases row <;> cases column <;> first | exact marks_one | exact marks_zero
  | pauliY =>
      cases row <;> cases column <;>
        first | exact marks_i | exact marks_i.neg | exact marks_zero
  | pauliZ =>
      cases row <;> cases column <;>
        first | exact marks_one | exact marks_one.neg | exact marks_zero

theorem PairGate.marks_entry (gate : PairGate) (row column : Bool × Bool) :
    (gate.entry row column : Amplitude α).Marks (decide (column = gate.image row)) := by
  rcases eq_or_ne (gate.image column) row with rfl | hne
  · rw [entry, if_pos rfl, image_image, decide_eq_true rfl]
    exact marks_one
  · have hcolumn : ¬ column = gate.image row := by
      rintro rfl
      exact hne (gate.image_image row)
    rw [entry, if_neg hne, decide_eq_false hcolumn]
    exact marks_zero

/-- The wave of the one basis state in which the wires have the values given. -/
def Wave.IsAt (wires : Nat) (values : Nat → Bool) (wave : Wave α) : Prop :=
  ∀ values', (wave values').Marks (Agree wires values' values)

theorem Register.isAt_zero (wires : Nat) :
    Wave.IsAt wires (fun _ => false) (Register.zero wires : Register α wires).wave := by
  intro values
  rw [wave_zero]
  split
  · next hzero =>
    have hagree : Agree wires values fun _ => false := hzero
    rw [decide_eq_true hagree]
    exact marks_one
  · next hzero =>
    have hagree : ¬ Agree wires values fun _ => false := hzero
    rw [decide_eq_false hagree]
    exact marks_zero

variable [ExactUnits α]

theorem Amplitude.Marks.foldl_add {β : Type} {terms : List β} {term : β → Amplitude α}
    {mark : β → Bool} (hterm : ∀ c, (term c).Marks (mark c))
    (hpair : terms.Pairwise fun c d => (mark c && mark d) = false) {sum : Amplitude α} {p : Bool}
    (hsum : sum.Marks p) (hp : ∀ c ∈ terms, (p && mark c) = false) :
    (terms.foldl (fun sum c => sum + term c) sum).Marks (p || terms.any mark) := by
  induction terms generalizing sum p with
  | nil => simpa using hsum
  | cons c rest ih =>
      obtain ⟨hfirst, hrest⟩ := List.pairwise_cons.mp hpair
      have hnext := hsum.add (hterm c) (hp c (by simp))
      have hlast := ih hrest hnext (by
        intro d hd
        rw [Bool.and_or_distrib_right, hp d (by simp [hd]), hfirst d hd, Bool.or_false])
      rwa [List.any_cons, ← Bool.or_assoc]

theorem Operation.act_marks {wave : Wave α} {on : (Nat → Bool) → Bool}
    (hwave : ∀ values, (wave values).Marks (on values)) {operation : Operation Nat}
    (hclassical : operation.IsClassical) (values : Nat → Bool) :
    (operation.act wave values).Marks (on (classical values operation)) := by
  cases operation with
  | single gate target =>
      have hgate : gate ≠ .hadamard := by
        rintro rfl
        exact hclassical rfl
      let moved := fun column => update values target column
      have hterm (column : Bool) :=
        (SingleGate.marks_entry hgate (values target) column).mul (hwave (moved column))
      have hsum := (hterm false).add (hterm true) (by cases gate.source (values target) <;> simp)
      have hmark : (decide (false = gate.source (values target)) && on (moved false) ||
          decide (true = gate.source (values target)) && on (moved true)) =
            on (moved (gate.source (values target))) := by
        cases gate.source (values target) <;> simp
      rw [hmark] at hsum
      rw [SingleGate.classical_eq hgate]
      exact hsum
  | pair gate first second =>
      let source := gate.image (values first, values second)
      let moved := fun column : Bool × Bool =>
        update (update values first column.1) second column.2
      have hterm (column : Bool × Bool) :=
        (PairGate.marks_entry gate (values first, values second) column).mul
          (hwave (moved column))
      have hpair : Register.quadValues.Pairwise fun c d =>
          ((decide (c = source) && on (moved c)) && (decide (d = source) && on (moved d))) =
            false := by
        rcases source with ⟨_ | _, _ | _⟩ <;> simp [Register.quadValues]
      have hsum := marks_zero.foldl_add hterm hpair (fun _ _ => Bool.false_and _)
      have hmark : (false || Register.quadValues.any fun c =>
          decide (c = source) && on (moved c)) = on (moved source) := by
        rcases source with ⟨_ | _, _ | _⟩ <;> simp [Register.quadValues]
      rw [hmark] at hsum
      rw [PairGate.classical_eq]
      exact hsum

theorem Wave.IsAt.act {wires : Nat} {values : Nat → Bool} {wave : Wave α}
    {operation : Operation Nat} (h : Wave.IsAt wires values wave)
    (hfits : operation.Fits wires) (hclassical : operation.IsClassical) :
    Wave.IsAt wires (operation.classical values) (operation.act wave) := by
  intro values'
  have hmarks := Operation.act_marks h hclassical values'
  simpa only [Operation.agree_classical_iff hfits] using hmarks

theorem Wave.IsAt.actAll {wires : Nat} {values : Nat → Bool} {wave : Wave α}
    {operations : List (Operation Nat)} (h : Wave.IsAt wires values wave)
    (hfits : ∀ operation ∈ operations, operation.Fits wires)
    (hclassical : ∀ operation ∈ operations, operation.IsClassical) :
    Wave.IsAt wires (Operation.classicalAll values operations)
      (Operation.actAll wave operations) := by
  induction operations generalizing values wave with
  | nil => exact h
  | cons operation rest ih =>
      have hnext := h.act (hfits operation (by simp)) (hclassical operation (by simp))
      exact ih hnext (fun other hother => hfits other (by simp [hother]))
        (fun other hother => hclassical other (by simp [hother]))

end Marks

end GateGame
