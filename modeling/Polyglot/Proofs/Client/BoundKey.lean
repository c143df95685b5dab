import Polyglot.Proofs.Client.FallbackView

/-!
# Functions bound to a namespace

A function that a client binds to a namespace looks a key up at three places: with the namespace
and then alone in the active translations, and with the namespace in those of the default language.
A message that only the default language has, under the key alone, is at a fourth place: the client
finds it when it is asked for the key, and the bound function does not.
-/
namespace Polyglot

/-! ## Lookups -/

namespace View

variable (v : View) (defaultLanguage : String) (space : Option String) (key : String)

/-- The message of a key in the default language; there is none while that is the active one. -/
def fallbackMessage? : Option String :=
  if v.language = .text defaultLanguage then none
  else v.fallback.bind fun b => Bundle.message? b key

theorem message?_eq_or :
    v.message? defaultLanguage key =
      (Bundle.message? v.translations key).or (v.fallbackMessage? defaultLanguage key) := by
  unfold message? fallbackMessage?
  cases Bundle.message? v.translations key <;> rfl

/-- The three places at which a bound function looks, in their order. -/
theorem message?_boundKey_eq_or :
    v.message? defaultLanguage (v.boundKey space key) =
      ((Bundle.message? v.translations (Bundle.namespacedKey space key)).or
        (Bundle.message? v.translations key)).or
          (v.fallbackMessage? defaultLanguage (Bundle.namespacedKey space key)) := by
  cases space with
  | none => rw [boundKey, Bundle.namespacedKey, Option.or_self, message?_eq_or]
  | some n =>
    rw [boundKey]
    cases hfull : Bundle.message? v.translations (Bundle.namespacedKey (some n) key) with
    | some m => simp [message?_eq_or, hfull]
    | none =>
      cases hkey : Bundle.message? v.translations key with
      | some m => simp [message?_eq_or, hkey]
      | none => simp [message?_eq_or, hfull]

variable {v defaultLanguage space key}

/-- A key that has a message in the active translations, and none with the namespace, is looked up
alone. -/
theorem boundKey_of_active
    (hfull : v.message? defaultLanguage (Bundle.namespacedKey space key) = none)
    (hkey : Bundle.message? v.translations key ≠ none) : v.boundKey space key = key := by
  rw [message?_eq_or, Option.or_eq_none_iff] at hfull
  cases space with
  | none => rfl
  | some n => simp [boundKey, hfull.1, Option.isSome_iff_ne_none.2 hkey]

theorem boundKey_of_not_active (hkey : Bundle.message? v.translations key = none) :
    v.boundKey space key = Bundle.namespacedKey space key := by
  cases space with
  | none => rfl
  | some n => simp [boundKey, hkey]

/-- A key without a message comes back. -/
theorem translate_result_of_none (h : v.message? defaultLanguage key = none) (values : Bundle) :
    (v.translate defaultLanguage key values).result = .ok key := by
  rw [translate, h]
  dsimp only
  split <;> rfl

end View

/-! ## Falling back -/

namespace Client

/-- A key that has no message with the namespace, and one without it. The bound function answers as
the client does for the key alone if the active translations have that message; if only the default
language has it, the key comes back with the namespace, as one that is missing does. -/
theorem translate_bound_eq_iff (c : Client) (space : Option String) (key : String)
    (hfull : c.view.message? c.plan.defaultLanguage (Bundle.namespacedKey space key) = none)
    (hkey : c.view.message? c.plan.defaultLanguage key ≠ none) (values : Bundle) :
    (Bundle.message? c.view.translations key ≠ none →
      c.translate space key values = c.translate none key values) ∧
    (Bundle.message? c.view.translations key = none →
      c.view.fallbackMessage? c.plan.defaultLanguage key ≠ none ∧
        (c.translate space key values).2.2 = .ok (Bundle.namespacedKey space key)) ∧
    ((c.translate space key values).2.2 = (c.translate none key values).2.2 ↔
      Bundle.message? c.view.translations key ≠ none ∨
        (c.translate none key values).2.2 = .ok (Bundle.namespacedKey space key)) := by
  have hactive : Bundle.message? c.view.translations key ≠ none →
      c.translate space key values = c.translate none key values := by
    intro h
    rw [translate, translate, View.translateIn, View.translateIn, View.boundKey_of_active hfull h]
    rfl
  have hmissing : Bundle.message? c.view.translations key = none →
      (c.translate space key values).2.2 = .ok (Bundle.namespacedKey space key) := by
    intro h
    rw [translate, View.translateIn, View.boundKey_of_not_active h]
    exact View.translate_result_of_none hfull values
  refine ⟨hactive, fun h => ⟨?_, hmissing h⟩, fun heq => ?_, fun h => ?_⟩
  · rwa [View.message?_eq_or, h, Option.none_or] at hkey
  · by_cases h : Bundle.message? c.view.translations key = none
    · exact .inr (heq ▸ hmissing h)
    · exact .inl h
  · by_cases hnone : Bundle.message? c.view.translations key = none
    · rw [hmissing hnone]
      exact (h.resolve_left (not_not_intro hnone)).symm
    · rw [hactive hnone]

/-- The client with greetings in two languages, switched to the one that has fewer of them. -/
def inGerman : Client := (bilingual.switchLanguage (.serving []) "de" ()).client

theorem inGerman_view :
    inGerman.view = (bilingual.view.activate "en" "de" [("hello", .text "Hallo")]).view ∧
      inGerman.plan = bilingual.plan := by
  have hswitch : bilingual.switchLanguage (.serving []) "de" () =
      (bilingual.perform (.serving []) (.switchBase "de") ()).after [] := rfl
  rw [perform_of_ends _ bilingual (.switchBase "de") () rfl] at hswitch
  rw [inGerman, hswitch]
  exact ⟨rfl, rfl⟩

theorem translate_bound_eq_iff_inGerman :
    inGerman.view.message? inGerman.plan.defaultLanguage
        (Bundle.namespacedKey (some "shop") "hello") = none ∧
      inGerman.view.message? inGerman.plan.defaultLanguage "hello" ≠ none ∧
      inGerman.translate (some "shop") "hello" [] = inGerman.translate none "hello" [] := by
  obtain ⟨hview, hplan⟩ := inGerman_view
  have hfull : inGerman.view.message? inGerman.plan.defaultLanguage
      (Bundle.namespacedKey (some "shop") "hello") = none := by
    rw [hview, hplan]
    decide
  have hkey : inGerman.view.message? inGerman.plan.defaultLanguage "hello" ≠ none := by
    rw [hview, hplan]
    decide
  refine ⟨hfull, hkey, (translate_bound_eq_iff inGerman (some "shop") "hello" hfull hkey []).1 ?_⟩
  rw [hview]
  decide

/-- The farewell is there in English alone: the client falls back to it, and a function for the
shop does not. -/
theorem exists_translate_bound_ne :
    create (.ofEntries []) .bilingual = .ok bilingual ∧
      inGerman.view.message? inGerman.plan.defaultLanguage
        (Bundle.namespacedKey (some "shop") "bye") = none ∧
      inGerman.view.message? inGerman.plan.defaultLanguage "bye" = some "Bye" ∧
      (inGerman.translate none "bye" []).2.2 = .ok "Bye" ∧
      (inGerman.translate (some "shop") "bye" []).2.2 = .ok "shop:bye" := by
  obtain ⟨hview, hplan⟩ := inGerman_view
  simp only [translate, hview, hplan]
  exact ⟨rfl, by decide, by decide, rfl, rfl⟩

end Client
end Polyglot
