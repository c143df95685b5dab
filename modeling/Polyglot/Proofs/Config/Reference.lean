import Polyglot.Config.Basic
import Polyglot.Proofs.Config.Placeholder
import Polyglot.Proofs.Value.Display

/-!
# References and reads

A reference to a key is replaced by the text that reading the key gives, unless a variable takes
precedence over the key: references do not ask for it. Collections are read as they are, while
references in their text are resolved.
-/
namespace Polyglot.Config

variable {env : Environment} {data : Bundle} {key s r : String} {v w : Value} {n : Nat}

/-! ## Depth -/

theorem HasChain.of_succ (h : HasChain env data (n + 1) s) : HasChain env data n s := by
  induction n generalizing s with
  | zero => trivial
  | succ n ih =>
    obtain ⟨t, ht, hrefer, hchain⟩ := h
    exact ⟨t, ht, hrefer, ih hchain⟩

/-- Following references deeper does not matter where chains are short enough. -/
theorem resolveTo_succ_eq_ok_iff (hshort : ¬HasChain env data n s) :
    resolveTo env data (n + 1) s = .ok r ↔ resolveTo env data n s = .ok r := by
  have hdeep : ¬HasChain env data (n + 1) s := fun h => hshort h.of_succ
  simp only [resolveTo_eq_ok_iff, hshort, hdeep]

/-! ## What a reference is replaced by -/

/-- The text of a value, if it has one. -/
def written (v : Value) : Except PlaceholderFault String :=
  if v.isWritable then .ok v.display else .error .numberTooLong

/-- What a reference to a value is replaced by. -/
def referred (env : Environment) (data : Bundle) (depth : Nat) (v : Value) :
    Except PlaceholderFault String := do
  let t ← written v
  if mayRefer t then resolveTo env data depth t else .ok t

theorem written_text (t : String) : written (.text t) = .ok t := rfl

theorem contains_eq_false {c d : Char} {cs : List Char} (h : c ∉ cs) :
    Text.contains [c, d] cs = false := by
  induction cs with
  | nil => rfl
  | cons e r ih =>
    obtain ⟨he, hr⟩ := not_or.1 (List.mem_cons.not.1 h)
    simp [Text.contains, List.isPrefixOf, he, ih hr]

/-- Values other than texts and collections refer to nothing. -/
theorem referred_of_not_isComposite (h : v.isComposite = false) (env : Environment)
    (data : Bundle) (depth : Nat) : referred env data depth v = written v := by
  have hrefer : mayRefer v.display = false := contains_eq_false (Value.dollar_not_mem_display h)
  rw [referred, written]
  split
  · simp [Bind.bind, Except.bind, hrefer]
  · rfl

theorem resolve_referenceTo (hkey : IsReferable key) (hname : Entries.get? env key = none)
    (hfind : find? data key = some v) :
    resolve env data (referenceTo key) = referred env data 10 v := by
  have htarget : target env data key.toList =
      if v.isWritable then .configured v.display else .unwritable := by
    rw [target_key hkey, hname, hfind]
  have hreplace : replaceTo env data 10 (.reference key.toList) = referred env data 10 v := by
    rw [replaceTo, htarget, referred, written]
    cases v.isWritable <;> rfl
  rw [resolve, maxDepth, resolveTo_succ, pieces_referenceTo hkey, List.mapM_cons, List.mapM_nil,
    hreplace]
  cases referred env data 10 v <;> simp [Bind.bind, Except.bind, pure, Except.pure, Except.map]

/-! ## Reading -/

variable {c : Config} {default : Value}

theorem get_of_variable {o : String} (h : Entries.get? env (variableOf key) = some o) :
    c.get env key default = .ok (.text o) := by
  rw [get, h]

theorem get_of_not_text (hvariable : Entries.get? env (variableOf key) = none)
    (hfind : find? c.data key = some v) (htext : v.text? = none) :
    c.get env key default = .ok v := by
  rw [get, hvariable, hfind]
  cases v <;> first | rfl | cases htext

/-- A text is read as it is referred to, if its chains are short enough. -/
theorem referred_of_get_text {t : String} (hvariable : Entries.get? env (variableOf key) = none)
    (hfind : find? c.data key = some (.text t)) (hshort : ¬HasChain env c.data 10 t)
    (hget : c.get env key default = .ok w) : referred env c.data 10 (.text t) = written w := by
  rw [get, hvariable, hfind] at hget
  rw [referred, written_text]
  dsimp only at hget
  split at hget
  · rename_i hrefer
    obtain ⟨r, hr, rfl⟩ := Outcome.map_eq_ok_iff.1 hget
    have hten := (resolveTo_succ_eq_ok_iff hshort).1 hr
    simp [Bind.bind, Except.bind, hrefer, hten, written_text]
  · rename_i hrefer
    cases hget
    simp [Bind.bind, Except.bind, hrefer, written_text]

/-- A reference to a key gives the text that reading the key gives, if and only if a variable that
takes precedence happens to say what the reference gives, and the text of a collection is left
alone. -/
theorem resolve_referenceTo_eq_written_iff (hkey : IsReferable key)
    (hname : Entries.get? env key = none) (hfind : find? c.data key = some v)
    (hget : c.get env key default = .ok w)
    (hshort : ∀ t, Entries.get? env (variableOf key) = none → v = .text t →
      ¬HasChain env c.data 10 t) :
    resolve env c.data (referenceTo key) = written w ↔
      (∀ o, Entries.get? env (variableOf key) = some o → referred env c.data 10 v = .ok o) ∧
      (Entries.get? env (variableOf key) = none → v.isComposite = true → v.text? = none →
        referred env c.data 10 v = written v) := by
  rw [resolve_referenceTo hkey hname hfind]
  cases hvariable : Entries.get? env (variableOf key) with
  | some o =>
    cases (get_of_variable hvariable).symm.trans hget
    simp [written_text]
  | none =>
    cases htext : v.text? with
    | some t =>
      obtain rfl : v = .text t := by cases v <;> cases htext; rfl
      have hsame := referred_of_get_text hvariable hfind (hshort t hvariable rfl) hget
      simp [hsame]
    | none =>
      cases (get_of_not_text hvariable hfind htext).symm.trans hget
      cases hcomposite : v.isComposite with
      | true => simp
      | false => simp [referred_of_not_isComposite hcomposite]

/-- The variables of a shop whose name is overridden. -/
def renamedVariables : Environment := [("LINGX_APP_NAME", "Store")]

theorem isReferable_name : IsReferable "app.name" where
  nonempty := by decide
  colon := by decide
  brace := by decide

theorem isReferable_title : IsReferable "app.title" where
  nonempty := by decide
  colon := by decide
  brace := by decide

theorem find?_name : find? shopData "app.name" = some (.text "Shop") := by
  have hpath : keyPath "app.name" = ["app", "name"] := rfl
  rw [find?, hpath]
  rfl

theorem find?_title : ∃ t, find? shopData "app.title" = some (.text t) ∧
    resolveTo shopVariables shopData 10 t = .ok "Shop at shop.example:80" ∧ mayRefer t = true := by
  have hpath : keyPath "app.title" = ["app", "title"] := rfl
  refine ⟨_, by rw [find?, hpath]; rfl, ?_, ?_⟩
  · decide +kernel
  · rfl

theorem get?_name : Entries.get? renamedVariables (variableOf "app.name") = some "Store" := by
  decide +kernel

theorem get_name : (ofData shopData).get renamedVariables "app.name" .null = .ok (.text "Store") :=
  get_of_variable get?_name

/-- The title is referred to as it is read, the overridden name is not. -/
theorem resolve_referenceTo_eq_written_iff_shop :
    resolve shopVariables shopData (referenceTo "app.title") = .ok "Shop at shop.example:80" ∧
    resolve renamedVariables shopData (referenceTo "app.name") ≠ written (.text "Store") := by
  constructor
  · obtain ⟨t, hfind, hten, hrefer⟩ := find?_title
    have hvariable : Entries.get? shopVariables (variableOf "app.title") = none := by
      decide +kernel
    have hshort := ((resolveTo_eq_ok_iff 10 t _).1 hten).2
    have hresolve := (resolveTo_succ_eq_ok_iff hshort).2 hten
    have hget : (ofData shopData).get shopVariables "app.title" .null =
        .ok (.text "Shop at shop.example:80") := by
      have hdata : find? (ofData shopData).data "app.title" = some (.text t) := hfind
      rw [get, hvariable, hdata]
      simp only [hrefer, if_true]
      exact congrArg (Except.map Value.text) hresolve
    exact (resolve_referenceTo_eq_written_iff isReferable_title (by decide) hfind hget
      fun u _ hu => by cases hu; exact hshort).2 ⟨by simp [hvariable], fun _ _ h => nomatch h⟩
  · intro h
    obtain ⟨hoverride, -⟩ := (resolve_referenceTo_eq_written_iff isReferable_name (by decide)
      find?_name get_name fun t hvariable => absurd hvariable (by simp [get?_name])).1 h
    have hsame := hoverride "Store" get?_name
    revert hsame
    decide +kernel

/-- A variable takes precedence over a key where it is read, not where it is referred to. -/
theorem not_forall_resolve_referenceTo :
    ¬∀ (c : Config) (env : Environment) (key : String) (default v w : Value), IsReferable key →
      Entries.get? env key = none → find? c.data key = some v → c.get env key default = .ok w →
        (∀ t, v = .text t → ¬HasChain env c.data 10 t) →
          resolve env c.data (referenceTo key) = written w := by
  intro h
  have hshort : ¬HasChain renamedVariables shopData 10 "Shop" := by
    have hten : resolveTo renamedVariables shopData 10 "Shop" = .ok "Shop" := by decide +kernel
    exact ((resolveTo_eq_ok_iff 10 _ _).1 hten).2
  have hsame := h (ofData shopData) renamedVariables "app.name" .null _ _ isReferable_name
    (by decide) find?_name get_name fun t ht => by cases ht; exact hshort
  revert hsame
  decide +kernel

end Polyglot.Config
