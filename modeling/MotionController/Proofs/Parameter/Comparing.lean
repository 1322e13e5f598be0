import Mathlib.Data.List.Forall2
import MotionController.Proofs.Parameter.Reading

/-!
# Comparing values is an equivalence

Equality of numbers is symmetric and transitive, but NaN differs from itself. Values are compared as
texts first, and as numbers only if the texts differ, so that every value matches itself and
matching is an equivalence all the same (`equivalence_valuesMatch`). Lists match place by place
(`listsMatch_iff`), which makes an equivalence of it again (`equivalence_forall₂`). So no kind of
parameter compares its values in another way (`isMatch_equivalence`).
-/

namespace MotionController

/-! ## Equality of numbers -/

namespace Binary64

variable {x y z : Binary64}

theorem same_finite_iff {s t : Bool} {m n : Nat} :
    (finite s m).same (finite t n) = true ↔ m = n ∧ (s = t ∨ m = 0) := by
  simp [same]

theorem same_symm (h : x.same y = true) : y.same x = true := by
  cases x with
  | nan => cases h
  | infinite s =>
      cases y with
      | infinite t =>
          obtain rfl : s = t := by simpa [same] using h
          exact h
      | _ => cases h
  | finite s m =>
      cases y with
      | finite t n =>
          rcases same_finite_iff.1 h with ⟨rfl, hsign⟩
          exact same_finite_iff.2 ⟨rfl, hsign.imp_left Eq.symm⟩
      | _ => cases h

theorem same_trans (hxy : x.same y = true) (hyz : y.same z = true) : x.same z = true := by
  cases y with
  | nan => cases hyz
  | infinite t =>
      cases x with
      | infinite s =>
          obtain rfl : s = t := by simpa [same] using hxy
          exact hyz
      | _ => cases hxy
  | finite t n =>
      cases x with
      | finite s m =>
          cases z with
          | finite u k =>
              rcases same_finite_iff.1 hxy with ⟨rfl, hsign⟩
              rcases same_finite_iff.1 hyz with ⟨rfl, hsign'⟩
              -- A zero is equal to a zero of either sign.
              refine same_finite_iff.2 ⟨rfl, ?_⟩
              rcases hsign with rfl | hzero
              · exact hsign'
              · exact .inr hzero
          | _ => cases hyz
      | _ => cases hxy

end Binary64

namespace DeviceNumber

variable {x y z : DeviceNumber}

theorem same_symm (h : x.same y = true) : y.same x = true := by
  cases x with
  | whole a =>
      cases y with
      | whole b =>
          obtain rfl : a = b := by simpa [same] using h
          exact h
      | real b => cases h
  | real a =>
      cases y with
      | whole b => cases h
      | real b => exact Binary64.same_symm h

theorem same_trans (hxy : x.same y = true) (hyz : y.same z = true) : x.same z = true := by
  cases y with
  | whole b =>
      cases x with
      | whole a =>
          obtain rfl : a = b := by simpa [same] using hxy
          exact hyz
      | real a => cases hxy
  | real b =>
      cases x with
      | whole a => cases hxy
      | real a =>
          cases z with
          | whole c => cases hyz
          | real c => exact Binary64.same_trans hxy hyz

end DeviceNumber

/-! ## Lists -/

/-- Lists that are related place by place. -/
theorem equivalence_forall₂ {α : Type} {r : α → α → Prop} (h : Equivalence r) :
    Equivalence (List.Forall₂ r) where
  refl := by
    intro l
    exact List.forall₂_same.2 fun a _ => h.refl a
  symm := by
    intro as bs hab
    exact (hab.imp fun _ _ => h.symm).flip
  trans := by
    intro as bs cs hab hbc
    induction hab generalizing cs with
    | nil => exact hbc
    | cons hfirst _ ih =>
        cases hbc with
        | cons hfirst' hrest' => exact .cons (h.trans hfirst hfirst') (ih hrest')

/-! ## Values -/

namespace Parameter

variable {current desired : String}

theorem valuesMatch_iff :
    valuesMatch current desired = true ↔ current = desired ∨
      ∃ x y, DeviceNumber.read? current = some x ∧ DeviceNumber.read? desired = some y ∧
        x.same y = true := by
  unfold valuesMatch
  split
  · next h => simp [h]
  · next h =>
      split
      · next x y hx hy => simp [h, hx, hy]
      · next hnone =>
          simp only [Bool.false_eq_true, h, false_or, false_iff]
          rintro ⟨x, y, hx, hy, _⟩
          exact hnone x y hx hy

theorem equivalence_valuesMatch :
    Equivalence fun current desired => valuesMatch current desired = true where
  refl := valuesMatch_self
  symm := by
    intro a b h
    rcases valuesMatch_iff.1 h with rfl | ⟨x, y, hx, hy, hsame⟩
    · exact h
    · exact valuesMatch_iff.2 (.inr ⟨y, x, hy, hx, DeviceNumber.same_symm hsame⟩)
  trans := by
    intro a b c hab hbc
    rcases valuesMatch_iff.1 hab with rfl | ⟨x, y, hx, hy, hsame⟩
    · exact hbc
    · rcases valuesMatch_iff.1 hbc with rfl | ⟨y', z, hy', hz, hsame'⟩
      · exact hab
      · obtain rfl : y = y' := Option.some.inj (hy.symm.trans hy')
        exact valuesMatch_iff.2 (.inr ⟨x, z, hx, hz, DeviceNumber.same_trans hsame hsame'⟩)

theorem listsMatch_iff {currents desireds : List String} :
    listsMatch currents desireds = true ↔
      List.Forall₂ (fun current desired => valuesMatch current desired = true) currents
        desireds := by
  induction currents generalizing desireds with
  | nil => cases desireds <;> simp [listsMatch]
  | cons current currents ih =>
      cases desireds with
      | nil => simp [listsMatch]
      | cons desired desireds => simp [listsMatch, ih]

/-- Whether one value matches another is an equivalence, for the values of any kind of parameter and
for single values. -/
theorem isMatch_equivalence :
    (∀ kind, Equivalence fun current desired => isMatch kind current desired = true) ∧
      Equivalence fun current desired => valuesMatch current desired = true := by
  refine ⟨?_, equivalence_valuesMatch⟩
  intro kind
  have htext : Equivalence fun current desired : String => decide (current = desired) = true := by
    simpa only [decide_eq_true_eq] using (eq_equivalence : Equivalence (@Eq String))
  have hlists : Equivalence fun current desired =>
      listsMatch (components current) (components desired) = true := by
    simpa only [listsMatch_iff] using
      (equivalence_forall₂ equivalence_valuesMatch).comap components
  cases kind with
  | vector length => exact hlists
  | ssiQuery axis => exact htext
  | axisMask => exact htext
  | network => exact htext
  | _ => exact equivalence_valuesMatch

example :
    isMatch (.vector 2) "nan,0.00001" "nan,-0" = true ∧ isMatch .basic "nan" "NaN" = false := by
  decide +kernel

end Parameter
end MotionController
