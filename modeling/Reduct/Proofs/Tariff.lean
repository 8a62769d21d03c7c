import Reduct.Proofs.Reduction
import Reduct.Proofs.WholeNumber

namespace Reduct

open Number

/-- Amounts are whole charges of at least some units, and prices are whole and not negative. -/
structure Engine.IsWholeTariff (engine : Engine) (least : Nat) : Prop where
  quote : IsCharge least engine.settings.quoteAmount
  invoke : IsCharge least engine.settings.invokeAmount
  sequence : IsCharge least engine.settings.sequenceAmount
  price : ∀ name scope price, engine.library.price? name scope = some price →
    ∃ units : Nat, integer? price = some (units : Int)

namespace Engine.IsWholeTariff

variable {engine : Engine} {least : Nat}

/-- A price that is charged on top is a whole charge. -/
theorem isCharge_price (tariff : engine.IsWholeTariff least) {scope : Scope} {requested : String}
    {amount : Float} (charged : amount ∈ engine.priceCharges scope requested) :
    IsCharge 0 amount := by
  unfold priceCharges at charged
  split at charged
  · rename_i name _ _
    simp only [List.mem_map, Option.mem_toList] at charged
    obtain ⟨price, found, rfl⟩ := charged
    obtain ⟨units, whole⟩ := tariff.price name scope price found
    exact ⟨units, Nat.zero_le units, integer?_neg price units whole⟩
  · simp at charged

/-- A finite amount on a bill is a whole charge. -/
theorem isCharge_bill (tariff : engine.IsWholeTariff 0) {scope : Scope} {items : List Node}
    {amount : Float}
    (charged : amount ∈ engine.bill scope items.length (Node.shape items))
    (finite : amount.isFinite = true) : IsCharge 0 amount := by
  cases shape : Node.shape items with
  | quote =>
      rw [shape] at charged
      obtain rfl : amount = _ := by simpa [bill] using charged
      exact tariff.quote
  | call requested =>
      rw [shape, bill, List.mem_cons] at charged
      rcases charged with rfl | priced
      · exact tariff.invoke
      · exact tariff.isCharge_price priced
  | empty =>
      rw [shape] at charged
      simp [bill] at charged
  | sequence =>
      rw [shape] at charged
      obtain rfl : amount = _ := by simpa [bill] using charged
      have filled : items ≠ [] := by
        rintro rfl
        cases shape
      exact tariff.sequence.scaled (List.length_pos_iff.mpr filled) finite

/-- The bill of a filled list starts with a debit of at least one unit, and no amount on it is a
credit. -/
theorem exists_debit_bill (tariff : engine.IsWholeTariff 1) (scope : Scope) {items : List Node}
    (filled : items ≠ []) :
    ∃ amount rest, engine.bill scope items.length (Node.shape items) = amount :: rest ∧
      IsDebit 1 amount ∧ ∀ other ∈ rest, IsDebit 0 other := by
  cases shape : Node.shape items with
  | quote => exact ⟨_, [], rfl, .inr tariff.quote, by simp⟩
  | call requested =>
      exact ⟨_, _, rfl, .inr tariff.invoke, fun other priced => .inr (tariff.isCharge_price priced)⟩
  | empty => exact absurd ((Node.shape_eq_empty_iff items).mp shape) filled
  | sequence =>
      obtain ⟨units, positive, whole⟩ := tariff.sequence
      refine ⟨_, [], rfl, ?_, by simp⟩
      exact IsDebit.scaled _ units _ whole positive (List.length_pos_iff.mpr filled)

end Engine.IsWholeTariff

end Reduct
