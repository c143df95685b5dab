import Polyglot.Locale.PluralRule
import Polyglot.Proofs.Number.Decimal
import Polyglot.Proofs.Outcome

/-!
# Numbers without a category

A finite number has a plural category unless it is so large that a rule cannot reduce it: the
quotient would have more digits than fit.
-/
namespace Polyglot

variable {rules : PluralRules} {o : PluralOperands} {f : PluralFault}

/-- Whether a relation reduces the value of a number by a modulus that is too small for it. -/
def PluralRelation.Overruns (r : PluralRelation) (whole : Nat) : Prop :=
  r.operand = .value ∧ ∃ m, r.modulus = some m ∧ maxQuotient ≤ whole / m

/-- Whether one of the relations of some rules cannot reduce a number with this whole part. -/
def PluralRules.Overrun (rules : PluralRules) (whole : Nat) : Prop :=
  ∃ rule ∈ rules, ∃ alternative ∈ rule.2, ∃ r ∈ alternative, r.Overruns whole

theorem PluralRelation.overruns_of_holds {r : PluralRelation} (h : r.holds o = .error f) :
    r.Overruns o.whole := by
  rw [PluralRelation.holds, Outcome.map_eq_error_iff, PluralRelation.reduced] at h
  split at h
  · cases h
  · rename_i m hoperand hmodulus
    split at h
    · rename_i hlarge
      exact ⟨hoperand, m, hmodulus, hlarge⟩
    · cases h
  · cases h
  · cases h
  · cases h

theorem exists_of_allHold {rs : List PluralRelation} (h : allHold o rs = .error f) :
    ∃ r ∈ rs, r.Overruns o.whole := by
  fun_induction allHold o rs with
  | case1 => cases h
  | case2 r rs hr ih =>
    obtain ⟨s, hs, hover⟩ := ih h
    exact ⟨s, List.mem_cons_of_mem r hs, hover⟩
  | case3 r rs hr =>
    exact ⟨r, List.mem_cons_self, r.overruns_of_holds h⟩

theorem PluralCondition.exists_of_holds {condition : PluralCondition}
    (h : condition.holds o = .error f) :
    ∃ alternative ∈ condition, ∃ r ∈ alternative, r.Overruns o.whole := by
  fun_induction PluralCondition.holds o condition with
  | case1 => cases h
  | case2 a as ha ih =>
    obtain ⟨b, hb, hover⟩ := ih h
    exact ⟨b, List.mem_cons_of_mem a hb, hover⟩
  | case3 a as ha => exact ⟨a, List.mem_cons_self, exists_of_allHold h⟩

theorem PluralRules.overrun_of_select (h : rules.select o = .error f) : rules.Overrun o.whole := by
  fun_induction PluralRules.select o rules with
  | case1 => cases h
  | case2 c condition rules e he =>
    exact ⟨_, List.mem_cons_self, condition.exists_of_holds he⟩
  | case3 => cases h
  | case4 c condition rules hc ih =>
    obtain ⟨rule, hrule, hover⟩ := ih h
    exact ⟨rule, List.mem_cons_of_mem _ hrule, hover⟩

/-- A number that fits has a category, unless its whole part overruns a rule. -/
theorem PluralRules.overrun_of_categoryOf {s : Bool} {c : Nat} {e : Int} (hfits : Decimal.Fits c e)
    (h : rules.categoryOf (.finite s c e) = .error f) : rules.Overrun (Decimal.wholeAbs c e) := by
  rw [PluralRules.categoryOf, PluralOperands.ofDecimal, hfits.abs_eq s] at h
  exact overrun_of_select h

end Polyglot
