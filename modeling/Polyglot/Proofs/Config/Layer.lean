import Polyglot.Config.Layer
import Polyglot.Proofs.Value.Tree

/-!
# Merged layers

What a path of keys leads to in merged layers is decided path by path. A layer says of a path what
it leads to, or that it leads nowhere because a value stands in the way that is no mapping; or it
says nothing of it, and then the layers below count.
-/
namespace Polyglot

/-! ## What a layer says of a path -/

/-- What a layer says of a path. -/
inductive Verdict
  | silent
  | blocked
  | given (v : Value)

/-- What a path leads to when the layers below say `below`. -/
def Verdict.above (below : Option Value) : Verdict → Option Value
  | silent => below
  | blocked => none
  | given v => some (Config.mergeValue below v)

namespace Value

variable {v : Value} {path : List Key}

/-- What a value says of a path. -/
def verdict : Value → List Key → Verdict
  | v, [] => .given v
  | .dict es, k :: ks =>
      match Bundle.value? es k with
      | none => .silent
      | some w => w.verdict ks
  | _, _ :: _ => .blocked

@[simp] theorem verdict_nil (v : Value) : v.verdict [] = .given v := by cases v <;> rfl

theorem verdict_cons_of_leaf (h : v.entries? = none) (k : Key) (path : List Key) :
    v.verdict (k :: path) = .blocked := by
  cases v <;> first | rfl | cases h

/-- Whether a layer decides what a path leads to. -/
def Decides (v : Value) (path : List Key) : Prop := v.at? path ≠ none ∨ v.IsBlocked path

theorem verdict_cases (v : Value) (path : List Key) :
    (∃ w, v.verdict path = .given w ∧ v.at? path = some w ∧ ¬v.IsBlocked path) ∨
    (v.verdict path = .blocked ∧ v.at? path = none ∧ v.IsBlocked path) ∨
    (v.verdict path = .silent ∧ v.at? path = none ∧ ¬v.IsBlocked path) := by
  induction path generalizing v with
  | nil => exact .inl ⟨v, v.verdict_nil, v.at?_nil, not_isBlocked_nil⟩
  | cons k ks ih =>
    cases hes : v.entries? with
    | none =>
      exact .inr (.inl ⟨verdict_cons_of_leaf hes k ks, at?_cons_of_leaf hes k ks,
        isBlocked_cons_of_leaf hes k ks⟩)
    | some es =>
      obtain rfl := entries?_eq_some_iff.1 hes
      rw [verdict, at?, isBlocked_dict_cons]
      cases hk : Bundle.value? es k with
      | none => exact .inr (.inr ⟨rfl, rfl, fun ⟨_, h, _⟩ => nomatch h⟩)
      | some w => simpa using ih w

theorem not_decides_iff : ¬v.Decides path ↔ v.verdict path = .silent := by
  rcases v.verdict_cases path with ⟨w, hw, hat, -⟩ | ⟨hw, -, hblocked⟩ | ⟨hw, hnone, hblocked⟩
  · simp [Decides, hw, hat]
  · simp [Decides, hw, hblocked]
  · simp [Decides, hw, hnone, hblocked]

theorem Decides.above_verdict (h : v.Decides path) (below : Option Value) :
    (v.verdict path).above below = (v.at? path).map (Config.mergeValue below) := by
  rcases v.verdict_cases path with ⟨w, hw, hat, -⟩ | ⟨hw, hat, -⟩ | ⟨hw, -⟩
  · rw [hw, hat]
    rfl
  · rw [hw, hat]
    rfl
  · exact absurd h (not_decides_iff.2 hw)

end Value

/-! ## Merging -/

namespace Config

open Value (dict)

variable {base upper : Bundle} {v : Value} {k : Key} {path : List Key}

theorem mergeValue_of_leaf (h : v.entries? = none) (below : Option Value) :
    mergeValue below v = v := by
  cases v with
  | dict es => cases h
  | _ => simp [mergeValue]

theorem mergeValue_of_below {below : Option Value} (h : below.bind Value.entries? = none)
    (v : Value) : mergeValue below v = v := by
  cases v with
  | dict es =>
    rw [mergeValue]
    rintro base rfl
    cases h
  | _ => simp [mergeValue]

theorem mergeValue_dict (base es : Bundle) :
    mergeValue (some (.dict base)) (.dict es) = .dict (merge base es) := by
  rw [mergeValue]

/-- What stands under a key in merged layers. -/
theorem value?_merge (hupper : (dict upper).IsTree) (base : Bundle) (k : Key) :
    (merge base upper).value? k =
      match Bundle.value? upper k with
      | none => Bundle.value? base k
      | some v => some (mergeValue (Bundle.value? base k) v) := by
  induction upper generalizing base with
  | nil => rw [merge]; rfl
  | cons e r ih =>
    obtain ⟨j, v⟩ := e
    obtain ⟨-, hnew, hrest⟩ := Value.isTree_dict_cons.1 hupper
    rw [merge, ih hrest, Bundle.value?]
    -- The key that is stored first is not met again, since no key of a tree occurs twice.
    by_cases hj : j.identity = k.identity
    · rw [if_pos hj, ← Bundle.value?_congr hj r, hnew]
      simp only [Bundle.value?_store_of_eq base _ hj.symm, Bundle.value?_congr hj]
    · rw [if_neg hj, Bundle.value?_store_of_ne base _ (Ne.symm hj)]

theorem bind_at?_cons_of_below {below : Option Value} (h : below.bind Value.entries? = none) :
    (below.bind fun b => b.at? (k :: path)) = none := by
  cases below with
  | none => rfl
  | some b => exact Value.at?_cons_of_leaf h k path

/-- What a path leads to in merged values is what the upper one says of it. -/
theorem at?_mergeValue (hv : v.IsTree) (below : Option Value) (path : List Key) :
    (mergeValue below v).at? path = (v.verdict path).above (below.bind fun b => b.at? path) := by
  induction path generalizing v below with
  | nil => simp [Verdict.above]
  | cons k ks ih =>
    cases hes : v.entries? with
    | none =>
      rw [mergeValue_of_leaf hes, Value.verdict_cons_of_leaf hes, Value.at?_cons_of_leaf hes]
      rfl
    | some es =>
      obtain rfl := Value.entries?_eq_some_iff.1 hes
      rw [Value.verdict]
      -- Only a mapping over a mapping is merged; over anything else the upper one stands as it is.
      cases hbelow : below.bind Value.entries? with
      | none =>
        rw [mergeValue_of_below hbelow, bind_at?_cons_of_below hbelow, Value.at?]
        cases hk : Bundle.value? es k with
        | none => rfl
        | some w =>
          have hw := ih (hv.of_value? hk) none
          rwa [mergeValue_of_below rfl] at hw
      | some base =>
        obtain ⟨b, rfl, hb⟩ := Option.bind_eq_some_iff.1 hbelow
        obtain rfl := Value.entries?_eq_some_iff.1 hb
        rw [mergeValue_dict, Value.at?, value?_merge hv]
        cases hk : Bundle.value? es k with
        | none => rfl
        | some w => exact ih (hv.of_value? hk) _

theorem at?_merge (hupper : (dict upper).IsTree) (base : Bundle) (path : List Key) :
    (dict (merge base upper)).at? path =
      ((dict upper).verdict path).above ((dict base).at? path) := by
  rw [← mergeValue_dict, at?_mergeValue hupper]
  rfl

/-- What a path leads to in merged layers, by what it leads to in either of them. -/
theorem at?_merge_cases (hupper : (dict upper).IsTree) (base : Bundle) (path : List Key) :
    ((dict upper).at? path = none → ¬(dict upper).IsBlocked path →
      (dict (merge base upper)).at? path = (dict base).at? path) ∧
    ((dict upper).at? path = none → (dict upper).IsBlocked path →
      (dict (merge base upper)).at? path = none) ∧
    (∀ b o, (dict base).at? path = some (dict b) → (dict upper).at? path = some (dict o) →
      (dict (merge base upper)).at? path = some (dict (merge b o))) ∧
    (∀ v, (dict upper).at? path = some v →
      (¬∃ b o, (dict base).at? path = some (dict b) ∧ v = dict o) →
        (dict (merge base upper)).at? path = some v) := by
  rw [at?_merge hupper]
  refine ⟨fun hnone hopen => ?_, fun hnone hblocked => ?_, fun b o hb ho => ?_,
    fun v hv hshape => ?_⟩
  · have hsilent : ¬(dict upper).Decides path := fun h => h.elim (fun hsome => hsome hnone) hopen
    rw [Value.not_decides_iff.1 hsilent, Verdict.above]
  · rw [Value.Decides.above_verdict (.inr hblocked), hnone]
    rfl
  · have hdecides : (dict upper).Decides path := .inl (by simp [ho])
    rw [hdecides.above_verdict, ho, hb, Option.map_some, mergeValue_dict]
  · have hdecides : (dict upper).Decides path := .inl (by simp [hv])
    rw [hdecides.above_verdict, hv, Option.map_some]
    cases hbelow : ((dict base).at? path).bind Value.entries? with
    | none => rw [mergeValue_of_below hbelow]
    | some b =>
      obtain ⟨w, hw, hb⟩ := Option.bind_eq_some_iff.1 hbelow
      obtain rfl := Value.entries?_eq_some_iff.1 hb
      have hleaf : v.entries? = none := by
        rw [Option.eq_none_iff_forall_ne_some]
        exact fun o ho => hshape ⟨b, o, hw, Value.entries?_eq_some_iff.1 ho⟩
      rw [mergeValue_of_leaf hleaf]

/-! ## Neutral layers -/

theorem merge_nil (base : Bundle) : merge base [] = base := by rw [merge]

/-- Keys that are not there yet go behind all others. -/
theorem merge_eq_append (hupper : upper.HasDistinctKeys)
    (hnew : ∀ e ∈ upper, Bundle.value? base e.1 = none) : merge base upper = base ++ upper := by
  induction upper generalizing base with
  | nil => rw [merge, List.append_nil]
  | cons e r ih =>
    obtain ⟨k, v⟩ := e
    obtain ⟨hk, hr⟩ := Bundle.hasDistinctKeys_cons.1 hupper
    obtain ⟨hfirst, hrest⟩ := List.forall_mem_cons.1 hnew
    rw [merge, hfirst, mergeValue_of_below rfl, Bundle.store_of_value?_eq_none hfirst, ih hr]
    · simp
    · intro e he
      have hne := Bundle.value?_eq_none_iff.1 hk e he
      rw [← Bundle.store_of_value?_eq_none hfirst v, Bundle.value?_store_of_ne _ _ hne,
        hrest e he]

theorem nil_merge (h : upper.HasDistinctKeys) : merge [] upper = upper :=
  merge_eq_append h fun _ _ => rfl

/-- Merging entries that a mapping has already changes nothing. -/
theorem merge_eq_of_forall
    (h : ∀ e ∈ upper, ∃ v, Bundle.value? base e.1 = some v ∧ mergeValue (some v) e.2 = v) :
    merge base upper = base := by
  induction upper with
  | nil => rw [merge]
  | cons e r ih =>
    obtain ⟨⟨v, hv, hsame⟩, hrest⟩ := List.forall_mem_cons.1 h
    rw [merge, hv, hsame, Bundle.store_of_value? hv]
    exact ih hrest

theorem mergeValue_self (h : v.IsTree) : mergeValue (some v) v = v := by
  induction h with
  | leaf h => exact mergeValue_of_leaf h _
  | dict hkeys hvalues ih =>
    rw [mergeValue_dict, merge_eq_of_forall]
    exact fun e he => ⟨e.2, hkeys.value?_of_mem he, ih e he⟩

theorem merge_self (h : (dict base).IsTree) : merge base base = base := by
  have hself := mergeValue_self h
  rw [mergeValue_dict] at hself
  exact (Value.dict.inj hself)

/-! ## Many layers -/

variable {layers lower : List Bundle} {l : Bundle}

/-- Whether a layer is the uppermost one that decides what a path leads to; `lower` are the layers
below it. -/
def IsTopDecider (layers : List Bundle) (path : List Key) (lower : List Bundle) (l : Bundle) :
    Prop :=
  ∃ upper, layers = lower ++ l :: upper ∧ (dict l).Decides path ∧
    ∀ u ∈ upper, ¬(dict u).Decides path

theorem exists_isTopDecider_or (layers : List Bundle) (path : List Key) :
    (∃ lower l, IsTopDecider layers path lower l) ∨ ∀ l ∈ layers, ¬(dict l).Decides path := by
  induction layers with
  | nil => exact .inr fun _ h => nomatch h
  | cons m r ih =>
    rcases ih with ⟨lower, l, upper, rfl, hl, hupper⟩ | hsilent
    · exact .inl ⟨m :: lower, l, upper, rfl, hl, hupper⟩
    · by_cases hm : (dict m).Decides path
      · exact .inl ⟨[], m, r, rfl, hm, hsilent⟩
      · exact .inr (List.forall_mem_cons.2 ⟨hm, hsilent⟩)

/-- Layers that say nothing of a path do not change what it leads to. -/
theorem at?_foldl_merge_of_silent (hlayers : ∀ l ∈ layers, (dict l).IsTree)
    (hsilent : ∀ l ∈ layers, ¬(dict l).Decides path) (base : Bundle) :
    (dict (layers.foldl merge base)).at? path = (dict base).at? path := by
  induction layers generalizing base with
  | nil => rfl
  | cons l r ih =>
    obtain ⟨hl, hr⟩ := List.forall_mem_cons.1 hlayers
    obtain ⟨hsilent, hrest⟩ := List.forall_mem_cons.1 hsilent
    rw [List.foldl_cons, ih hr hrest, at?_merge hl, Value.not_decides_iff.1 hsilent, Verdict.above]

/-- The uppermost layer that decides what a path leads to gives its value. -/
theorem at?_foldl_merge_of_isTopDecider (hlayers : ∀ l ∈ layers, (dict l).IsTree)
    (h : IsTopDecider layers path lower l) (base : Bundle) :
    (dict (layers.foldl merge base)).at? path =
      ((dict l).at? path).map (mergeValue ((dict (lower.foldl merge base)).at? path)) := by
  obtain ⟨upper, rfl, hdecides, hupper⟩ := h
  obtain ⟨-, hl, hrest⟩ := List.forall_mem_append.1 hlayers |>.imp_right List.forall_mem_cons.1
  rw [List.foldl_append, List.foldl_cons, at?_foldl_merge_of_silent hrest hupper, at?_merge hl,
    hdecides.above_verdict]

end Config
end Polyglot
