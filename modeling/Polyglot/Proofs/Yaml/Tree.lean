import Polyglot.Proofs.Outcome
import Polyglot.Proofs.Value.Tree
import Polyglot.Yaml.Reader

/-!
# Trees in YAML

What a document stands for is a tree: entries are stored one by one, so that of keys that are the
same only one is kept.
-/
namespace Polyglot.Yaml

/-! ## Scalars -/

theorem entries?_timeOf {cs : List Char} {v : Value} (h : timeOf cs = .ok v) :
    v.entries? = none := by
  rw [timeOf] at h
  split at h
  · cases h
  · split at h
    · obtain ⟨d, -, rfl⟩ := Outcome.map_eq_ok_iff.1 h
      rfl
    · obtain ⟨offset, -, h⟩ := Outcome.bind_eq_ok_iff.1 h
      obtain ⟨day, -, h⟩ := Outcome.bind_eq_ok_iff.1 h
      obtain ⟨clock, -, h⟩ := Outcome.bind_eq_ok_iff.1 h
      cases h
      rfl

theorem entries?_scalarOf {tag : Tag} {cs : List Char} {v : Value} (h : scalarOf tag cs = .ok v) :
    v.entries? = none := by
  unfold scalarOf at h
  split at h
  · cases h
    rfl
  · obtain ⟨b, -, rfl⟩ := Outcome.map_eq_ok_iff.1 h
    rfl
  · obtain ⟨n, -, rfl⟩ := Outcome.map_eq_ok_iff.1 h
    rfl
  · obtain ⟨x, -, rfl⟩ := Outcome.map_eq_ok_iff.1 h
    rfl
  · exact entries?_timeOf h
  · cases h
    rfl
  · cases h

/-! ## Collections -/

namespace Built

variable {α β γ : Type}

theorem and_eq_ok_iff {f : α → β → γ} {a : Built α} {b : Built β} {c : γ} :
    and f a b = .ok c ↔ ∃ x y, a = .ok x ∧ b = .ok y ∧ f x y = c := by
  cases a <;> cases b <;> simp [and]

theorem exists_of_mem_all {f : α → Built β} {as : List α} {bs : List β} (h : all f as = .ok bs)
    {b : β} (hb : b ∈ bs) : ∃ a ∈ as, f a = .ok b := by
  induction as generalizing bs with
  | nil =>
    cases h
    cases hb
  | cons a r ih =>
    obtain ⟨x, xs, hx, hxs, rfl⟩ := and_eq_ok_iff.1 h
    rcases List.mem_cons.1 hb with rfl | hr
    · exact ⟨a, List.mem_cons_self, hx⟩
    · obtain ⟨d, hd, hdb⟩ := ih hxs hr
      exact ⟨d, List.mem_cons_of_mem _ hd, hdb⟩

end Built

namespace Node

theorem isTree_toEntries {build : Node → Built Value}
    (hbuild : ∀ n v, build n = .ok v → v.IsTree) {depth : Nat} {es : List (Node × Node)}
    {found : Bundle} (h : toEntries build depth es = .ok found) : (Value.dict found).IsTree := by
  obtain ⟨pairs, hpairs, rfl⟩ := Outcome.map_eq_ok_iff.1 h
  refine Value.isTree_dict_nil.storeAll fun e he => ?_
  obtain ⟨d, -, hd⟩ := Built.exists_of_mem_all hpairs he
  obtain ⟨k, v, -, hv, rfl⟩ := Built.and_eq_ok_iff.1 hd
  exact hbuild d.2 v hv

/-- The value of a node is a tree. -/
theorem isTree_build {fuel depth : Nat} {n : Node} {v : Value} (h : build fuel depth n = .ok v) :
    v.IsTree := by
  induction fuel generalizing depth n v with
  | zero => cases h
  | succ fuel ih =>
    unfold build at h
    extract_lets below entries at h
    split at h
    · obtain ⟨vs, -, rfl⟩ := Outcome.map_eq_ok_iff.1 h
      exact .leaf rfl
    · obtain ⟨found, hfound, rfl⟩ := Outcome.map_eq_ok_iff.1 h
      obtain ⟨taken, -, hfound⟩ := Outcome.bind_eq_ok_iff.1 hfound
      exact isTree_toEntries (fun n v hv => ih hv) hfound
    · obtain ⟨found, -, rfl⟩ := Outcome.map_eq_ok_iff.1 h
      exact .leaf rfl
    · obtain ⟨vs, -, rfl⟩ := Outcome.map_eq_ok_iff.1 h
      exact .leaf rfl
    · split at h
      · cases h
      · split at h
        · cases h
        · obtain ⟨cs, -, hscalar⟩ := Outcome.bind_eq_ok_iff.1 (Outcome.mapError_eq_ok_iff.1 h)
          exact .leaf (entries?_scalarOf hscalar)

end Node

theorem isTree_read {s : String} {v : Value} (h : read s = .ok v) : v.IsTree := by
  unfold read at h
  simp only at h
  split at h
  · cases h
  · obtain ⟨root, -, h⟩ := Outcome.bind_eq_ok_iff.1 h
    cases root with
    | none =>
      cases h
      exact .leaf rfl
    | some n => exact Node.isTree_build (Outcome.mapError_eq_ok_iff.1 h)

end Polyglot.Yaml
