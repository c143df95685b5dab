import Polyglot.Config.Basic
import Polyglot.Proofs.Config.Layer
import Polyglot.Proofs.Toml.Tree
import Polyglot.Proofs.Yaml.Tree

/-!
# Loaded configuration

A configuration that was loaded from files is its layers merged one over the other: the defaults,
the file, and the profiles that exist. A path leads to what the uppermost layer says of it that
says anything.
-/
namespace Polyglot.Config

open Value (dict)

/-! ## Layers of files -/

variable {file : String → Except Failure (Option String)} {path : Path}

/-- The data of the file of a path, if there is one. -/
def layer? (file : String → Except Failure (Option String)) (path : Path) :
    Except FileFault (Option Bundle) :=
  match file path.text with
  | .error f => .error (.path f)
  | .ok none => .ok none
  | .ok (some text) => (dataOf path text).map some

/-- The layers of a configuration, the lowest one first. -/
def layers (file : String → Except Failure (Option String)) (path : Path)
    (profiles : List String) (withDefaults : Bool) : Except FileFault (List Bundle) := do
  let lowest := if withDefaults then [defaultData] else []
  match ← layer? file path with
  | none => .ok lowest
  | some base => do
      let overlays ← profiles.mapM fun profile => layer? file (profilePath path profile)
      .ok (lowest ++ base :: overlays.filterMap id)

theorem isTree_defaultData : (dict defaultData).IsTree := by
  simp [defaultData, texts, textList, Entries.update, Entries.put, Value.isTree_dict_cons,
    Value.isTree_dict_nil, Bundle.value?, Key.identity]
  and_intros <;> exact .leaf rfl

theorem isTree_dataOf {text : String} {es : Bundle} (h : dataOf path text = .ok es) :
    (dict es).IsTree := by
  rw [dataOf] at h
  split at h
  · exact Toml.isTree_read (Outcome.mapError_eq_ok_iff.1 h)
  · split at h
    · cases h
    · rename_i es' hread
      cases h
      exact Yaml.isTree_read hread
    · split at h
      · cases h
      · cases h
        exact Value.isTree_dict_nil

theorem isTree_of_layer? {es : Bundle} (h : layer? file path = .ok (some es)) :
    (dict es).IsTree := by
  rw [layer?] at h
  split at h
  · cases h
  · cases h
  · obtain ⟨found, hfound, heq⟩ := Outcome.map_eq_ok_iff.1 h
    cases heq
    exact isTree_dataOf hfound

/-- Every layer is a tree. -/
theorem isTree_of_mem_layers {profiles : List String} {withDefaults : Bool} {ls : List Bundle}
    (h : layers file path profiles withDefaults = .ok ls) {l : Bundle} (hl : l ∈ ls) :
    (dict l).IsTree := by
  have hlowest : ∀ l ∈ (if withDefaults then [defaultData] else []), (dict l).IsTree := by
    cases withDefaults with
    | false => exact fun l hl => nomatch hl
    | true => exact List.forall_mem_singleton.2 isTree_defaultData
  obtain ⟨base?, hbase, h⟩ := Outcome.bind_eq_ok_iff.1 h
  cases base? with
  | none =>
    cases h
    exact hlowest l hl
  | some base =>
    obtain ⟨overlays, hoverlays, h⟩ := Outcome.bind_eq_ok_iff.1 h
    cases h
    rcases List.mem_append.1 hl with hl | hl
    · exact hlowest l hl
    · rcases List.mem_cons.1 hl with rfl | hl
      · exact isTree_of_layer? hbase
      · obtain ⟨overlay, hmem, rfl⟩ := List.mem_filterMap.1 hl
        obtain ⟨profile, -, hprofile⟩ := Outcome.exists_of_mem_mapM hoverlays hmem
        exact isTree_of_layer? hprofile

/-! ## Loading -/

/-- Adding a file merges its layer, if there is one. -/
theorem addFile_eq (c : Config) (path : Path) (label : String) :
    addFile file c path label =
      (layer? file path).map fun l? =>
        l?.elim c fun l => ⟨merge c.data l, c.sources ++ [label]⟩ := by
  unfold addFile layer?
  cases file path.text with
  | error f => rfl
  | ok text? =>
    cases text? with
    | none => rfl
    | some text =>
      dsimp only
      cases dataOf path text <;> rfl

theorem addFiles_eq (base : Config) (place : String → Path) (label : String → String)
    (profiles : List String) :
    (profiles.foldlM (fun c p => addFile file c (place p) (label p)) base).map Config.data =
      (profiles.mapM fun p => layer? file (place p)).map fun found =>
        (found.filterMap id).foldl merge base.data := by
  induction profiles generalizing base with
  | nil => rfl
  | cons p r ih =>
    rw [List.foldlM_cons, List.mapM_cons, addFile_eq]
    cases layer? file (place p) with
    | error f => rfl
    | ok l? =>
      have hrest := ih (l?.elim base fun l => ⟨merge base.data l, base.sources ++ [label p]⟩)
      refine hrest.trans ?_
      cases r.mapM fun p => layer? file (place p) <;> cases l? <;> rfl

/-- Loading merges the layers, one over the other. -/
theorem load_eq (file : String → Except Failure (Option String)) (path : Path)
    (profiles : List String) (withDefaults : Bool) :
    (load file path profiles withDefaults).map Config.data =
      (layers file path profiles withDefaults).map fun ls => ls.foldl merge [] := by
  have hlowest : (if withDefaults then defaults else ⟨[], []⟩ : Config).data =
      (if withDefaults then [defaultData] else []).foldl merge [] := by
    cases withDefaults with
    | false => rfl
    | true => exact (nil_merge (Value.isTree_dict_iff.1 isTree_defaultData).1).symm
  unfold load layers
  -- Without a file there are no profiles either, so its three outcomes are told apart first.
  simp only [addFile_eq _ path]
  cases hfile : file path.text with
  | error f =>
    have hlayer : layer? file path = .error (.path f) := by rw [layer?, hfile]
    rw [hlayer]
    rfl
  | ok text? =>
    cases text? with
    | none =>
      have hlayer : layer? file path = .ok none := by rw [layer?, hfile]
      rw [hlayer]
      exact congrArg Except.ok hlowest
    | some text =>
      have hlayer : layer? file path = (dataOf path text).map some := by rw [layer?, hfile]
      rw [hlayer]
      cases dataOf path text with
      | error f => rfl
      | ok es =>
        refine (addFiles_eq _ (profilePath path) _ profiles).trans ?_
        cases hfound : profiles.mapM fun profile => layer? file (profilePath path profile) with
        | error f => rfl
        | ok overlays =>
          simp only [Except.map, Bind.bind, Except.bind, Option.elim, hlowest, List.foldl_append,
            List.foldl_cons]

/-! ## What a path leads to -/

/-- What a path leads to in merged layers, and in a configuration that was loaded from files: the
uppermost layer that decides it gives its value, and a mapping is merged over what the layers below
give. -/
theorem at?_load :
    (∀ base upper : Bundle, (dict upper).IsTree → ∀ p : List Key,
      ((dict upper).at? p = none → ¬(dict upper).IsBlocked p →
        (dict (merge base upper)).at? p = (dict base).at? p) ∧
      ((dict upper).at? p = none → (dict upper).IsBlocked p →
        (dict (merge base upper)).at? p = none) ∧
      (∀ b o, (dict base).at? p = some (dict b) → (dict upper).at? p = some (dict o) →
        (dict (merge base upper)).at? p = some (dict (merge b o))) ∧
      (∀ v, (dict upper).at? p = some v →
        (¬∃ b o, (dict base).at? p = some (dict b) ∧ v = dict o) →
          (dict (merge base upper)).at? p = some v)) ∧
    (∀ d : Bundle, (dict d).IsTree → merge d d = d ∧ merge d [] = d ∧ merge [] d = d) ∧
    ∀ file path profiles withDefaults,
      (load file path profiles withDefaults).map Config.data =
        (layers file path profiles withDefaults).map (fun ls => ls.foldl merge []) ∧
      ∀ ls, layers file path profiles withDefaults = .ok ls → ∀ p, p ≠ [] →
        (∃ lower l, IsTopDecider ls p lower l ∧
          (dict (ls.foldl merge [])).at? p =
            ((dict l).at? p).map (mergeValue ((dict (lower.foldl merge [])).at? p))) ∨
        (∀ l ∈ ls, ¬(dict l).Decides p) ∧ (dict (ls.foldl merge [])).at? p = none := by
  refine ⟨fun base upper hupper p => at?_merge_cases hupper base p, fun d hd => ?_,
    fun file path profiles withDefaults => ⟨load_eq file path profiles withDefaults, ?_⟩⟩
  · exact ⟨merge_self hd, merge_nil d, nil_merge (Value.isTree_dict_iff.1 hd).1⟩
  · intro ls hls p hp
    have htrees : ∀ l ∈ ls, (dict l).IsTree := fun l hl => isTree_of_mem_layers hls hl
    rcases exists_isTopDecider_or ls p with ⟨lower, l, hl⟩ | hsilent
    · exact .inl ⟨lower, l, hl, at?_foldl_merge_of_isTopDecider htrees hl []⟩
    · refine .inr ⟨hsilent, (at?_foldl_merge_of_silent htrees hsilent []).trans ?_⟩
      obtain ⟨k, ks, rfl⟩ := List.exists_cons_of_ne_nil hp
      rfl

/-- The files of a shop: one for all, and one for its developers that puts a text in the place of a
mapping. -/
def shopFiles (name : String) : Except Failure (Option String) :=
  .ok (Entries.get?
    [("/shop.toml", "cache.ttl = 60"), ("/shop-dev.toml", "cache = 'off'")] name)

def shopBase : Bundle := [("cache", .dict [("ttl", .int 60)])]

def shopOverlay : Bundle := [("cache", .text "off")]

theorem exists_layers_shopFiles :
    ∃ ls, layers shopFiles (.ofString "/shop.toml") ["dev", "gone"] true = .ok ls ∧
      ls.length = 3 := by
  have hlength : (layers shopFiles (.ofString "/shop.toml") ["dev", "gone"] true).toOption.map
      List.length = some 3 := by
    decide +kernel
  cases hls : layers shopFiles (.ofString "/shop.toml") ["dev", "gone"] true with
  | error f =>
    rw [hls] at hlength
    cases hlength
  | ok ls =>
    rw [hls] at hlength
    exact ⟨ls, rfl, Option.some.inj hlength⟩

/-- The path to the lifetime ends in the overlay. -/
theorem at?_load_shop :
    (dict (merge shopBase shopOverlay)).at? ["cache", "ttl"] = none ∧
    (dict (merge shopBase shopOverlay)).at? ["cache"] = some (.text "off") ∧
    merge shopOverlay shopOverlay = shopOverlay ∧
    ∃ ls, layers shopFiles (.ofString "/shop.toml") ["dev", "gone"] true = .ok ls ∧
      ls.length = 3 ∧
      ((∃ lower l, IsTopDecider ls ["cache", "ttl"] lower l ∧
          (dict (ls.foldl merge [])).at? ["cache", "ttl"] =
            ((dict l).at? ["cache", "ttl"]).map
              (mergeValue ((dict (lower.foldl merge [])).at? ["cache", "ttl"]))) ∨
        (∀ l ∈ ls, ¬(dict l).Decides ["cache", "ttl"]) ∧
          (dict (ls.foldl merge [])).at? ["cache", "ttl"] = none) := by
  have hoverlay : (dict shopOverlay).IsTree :=
    Value.isTree_dict_cons.2 ⟨.leaf rfl, rfl, Value.isTree_dict_nil⟩
  have hblocked : (dict shopOverlay).IsBlocked ["cache", "ttl"] :=
    Value.isBlocked_dict_cons.2 ⟨_, rfl, Value.isBlocked_cons_of_leaf rfl _ _⟩
  obtain ⟨ls, hls, hlength⟩ := exists_layers_shopFiles
  obtain ⟨hmerge, hneutral, hload⟩ := at?_load
  obtain ⟨-, hnone, -⟩ := hmerge shopBase _ hoverlay ["cache", "ttl"]
  obtain ⟨-, -, -, hvalue⟩ := hmerge shopBase _ hoverlay ["cache"]
  obtain ⟨-, hlayers⟩ := hload shopFiles (.ofString "/shop.toml") ["dev", "gone"] true
  refine ⟨hnone rfl hblocked, hvalue (.text "off") rfl ?_, (hneutral _ hoverlay).1,
    ls, hls, hlength, hlayers ls hls _ (by simp)⟩
  rintro ⟨b, o, -, ⟨⟩⟩

end Polyglot.Config
