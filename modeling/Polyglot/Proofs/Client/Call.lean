import Polyglot.Client.Call
import Polyglot.Proofs.Detection.Detector

/-!
# What follows in a call

Once a call has changed the view, what is left of it changes no translations: it looks for what the
default language lacks, adds the namespaces that a start has left, or ends. This module says so
once, for all properties of views that calls keep.
-/
namespace Polyglot

/-- Whether a view differs from another one at most in its detector and in whether it has
started. -/
def View.Agrees (v w : View) : Prop :=
  ∃ d b, w = { v with detector := d, isInitialized := b }

theorem View.agrees_refl (v : View) : v.Agrees v := ⟨v.detector, v.isInitialized, rfl⟩

/-- Whether a sequel has no namespaces left but those of a kind. -/
def Sequel.All (good : Key → Prop) : Sequel → Prop
  | .started _ left => ∀ o ∈ left, ∀ k ∈ o, good k
  | _ => True

/-- What a call may wait for when a sequel follows for a view. -/
inductive Call.Follows (v : View) (q : Sequel) : Call → Prop
  | newSpace {language space : Key} {left : List (Option Key)}
      (started : q = .started language (some space :: left)) :
      Follows v q (.newSpace v.language space (some (language, left)))
  | fallback (lacks : v.fallback = none) : Follows v q (.fallback q)
  | fallbackSpace {space : Key} (index : Nat) (loaded : space ∈ v.spaces)
      (lacks : space ∉ v.fallbackSpaces) : Follows v q (.fallbackSpace index space q)

/-- Whether a sequel follows for a view: the view stays as it is, but for what tells how far the
call is. -/
def Progress.Follows (v : View) (q : Sequel) : Progress → Prop
  | .waits w _ c => v.Agrees w ∧ c.Follows v q
  | .ends w _ _ => v.Agrees w

theorem Progress.Follows.after {v : View} {q : Sequel} {p : Progress} (h : p.Follows v q)
    (events : List Event) : (p.after events).Follows v q := by
  cases p <;> exact h

namespace Call

variable (p : ClientPlan) (available : List String) (v : View) (q : Sequel)

theorem follows_finish : (finish available v q).Follows v q := by
  cases q with
  | switched language =>
    simp only [finish]
    split
    · exact v.agrees_refl
    · split <;> exact ⟨_, _, rfl⟩
  | added b => exact v.agrees_refl
  | started language left =>
    cases left with
    | nil => exact ⟨_, _, rfl⟩
    | cons space left =>
      cases space with
      | none => exact v.agrees_refl
      | some space => exact ⟨v.agrees_refl, .newSpace rfl⟩

theorem firstUnknown_eq_none {known names : List Key} {index : Nat}
    (h : firstUnknown known names index = none) : names ⊆ known := by
  induction names generalizing index with
  | nil => exact List.nil_subset known
  | cons s rest ih =>
    rw [firstUnknown] at h
    split at h
    · rename_i hs
      exact List.cons_subset.2 ⟨hs, ih h⟩
    · cases h

/-- Before the first of some namespaces that is not known all are known. -/
theorem firstUnknown_eq_some {known names : List Key} {index i : Nat} {name : Key}
    (h : firstUnknown known names index = some (i, name)) :
    ∃ before after, names = before ++ name :: after ∧ before ⊆ known ∧ name ∉ known ∧
      i = index + before.length := by
  induction names generalizing index with
  | nil => cases h
  | cons s rest ih =>
    rw [firstUnknown] at h
    split at h
    · rename_i hs
      obtain ⟨before, after, rfl, hbefore, hname, hi⟩ := ih h
      refine ⟨s :: before, after, rfl, List.cons_subset.2 ⟨hs, hbefore⟩, hname, ?_⟩
      rw [hi, List.length_cons]
      omega
    · rename_i hs
      cases h
      exact ⟨[], rest, rfl, List.nil_subset known, hs, rfl⟩

theorem follows_completeFrom (index : Nat) : (completeFrom available v index q).Follows v q := by
  unfold completeFrom
  split
  · rename_i i name hname
    obtain ⟨before, after, hnames, -, hnew, -⟩ := firstUnknown_eq_some hname
    have hmem : name ∈ v.spaces.drop index := hnames ▸ by simp
    exact ⟨v.agrees_refl, .fallbackSpace i (List.mem_of_mem_drop hmem) hnew⟩
  · exact follows_finish available v q

theorem follows_complete : (complete available v q).Follows v q := by
  unfold complete
  split
  · rename_i hnone
    exact ⟨v.agrees_refl, .fallback hnone⟩
  · exact follows_completeFrom available v q 0

theorem follows_completeUnless (language : Key) :
    (completeUnless p available v language q).Follows v q := by
  unfold completeUnless
  split
  · exact follows_finish available v q
  · exact follows_complete available v q

/-- After an activation the sequel follows for the activated view, also where the formatter refuses
the language. -/
theorem follows_activate (language : Key) (b : Bundle) :
    (activate p available v language b q).Follows
      (v.activate p.defaultLanguage language b).view q := by
  unfold activate
  simp only
  split
  · exact (follows_completeUnless p available _ q language).after _
  · exact View.agrees_refl _

/-! ## Goes on with a bundle -/

/-- The view after a namespace was added. -/
def added (v : View) (space : Key) (b : Bundle) : View :=
  if v.language = .text p.defaultLanguage then
    (v.addSpace space (prefixed space b)).addFallbackSpace space (prefixed space b)
  else v.addSpace space (prefixed space b)

@[simp] theorem added_translations (space : Key) (b : Bundle) :
    (added p v space b).translations = Entries.update v.translations (prefixed space b) := by
  unfold added
  split <;> rfl

@[simp] theorem added_language (space : Key) (b : Bundle) :
    (added p v space b).language = v.language := by
  unfold added
  split <;> rfl

theorem mem_added_spaces (space : Key) (b : Bundle) : space ∈ (added p v space b).spaces := by
  have hmem : space ∈ (v.addSpace space (prefixed space b)).spaces := by
    unfold View.addSpace
    split
    · assumption
    · exact List.mem_append_right _ List.mem_cons_self
  unfold added
  split <;> exact hmem

/-- What follows once a namespace was added. -/
def addedSequel (space : Key) (b : Bundle) : Option (Key × List (Option Key)) → Sequel
  | none => .added (prefixed space b)
  | some (language, left) => .started language left

theorem resume_newSpace_ok (language space : Key) (start : Option (Key × List (Option Key)))
    (b : Bundle) :
    (newSpace language space start).resume p available v (.ok b) =
      completeUnless p available (added p v space b) v.language (addedSequel space b start) := by
  have hlanguage : (v.addSpace space (prefixed space b)).language = v.language := rfl
  simp only [resume, added, completeUnless, hlanguage]
  cases start <;> split <;> rfl

theorem follows_newSpace (language space : Key) (start : Option (Key × List (Option Key)))
    (b : Bundle) :
    ((newSpace language space start).resume p available v (.ok b)).Follows
      (added p v space b) (addedSequel space b start) := by
  rw [resume_newSpace_ok]
  exact follows_completeUnless p available _ _ v.language

theorem follows_fallback_ok (b : Bundle) :
    ((fallback q).resume p available v (.ok b)).Follows { v with fallback := some b } q :=
  follows_completeFrom available { v with fallback := some b } q 0

theorem follows_fallback_error (f : LoadFault) :
    ((fallback q).resume p available v (.error f)).Follows v q :=
  (follows_finish available v q).after _

theorem follows_fallbackSpace_ok (index : Nat) (space : Key) (b : Bundle) :
    ((fallbackSpace index space q).resume p available v (.ok b)).Follows
      (v.addFallbackSpace space (prefixed space b)) q :=
  follows_completeFrom available (v.addFallbackSpace space (prefixed space b)) q _

theorem follows_fallbackSpace_error (index : Nat) (space : Key) (f : LoadFault) :
    ((fallbackSpace index space q).resume p available v (.error f)).Follows v q :=
  (follows_completeFrom available v q _).after _

/-- A switch loads the next of the loaded namespaces, or makes the language the active one. -/
theorem overlay_cases (language : String) (merged : Bundle) (index : Nat) :
    (∃ space, v.spaces[index]? = some space ∧
      overlay p available v language merged index =
        .waits v [] (.switchSpace language merged index space)) ∨
    v.spaces.length ≤ index ∧ (overlay p available v language merged index).Follows
      (v.activate p.defaultLanguage (.text language) merged).view (.switched language) := by
  unfold overlay
  split
  · rename_i space hspace
    exact .inl ⟨space, hspace, rfl⟩
  · rename_i hnone
    exact .inr ⟨List.getElem?_eq_none_iff.1 hnone,
      follows_activate p available v (.switched language) _ merged⟩

/-- A start fails at once or asks for the bundle of a language: the active one, the fallback or one
that is supported. -/
theorem start_cases :
    (∃ events f, start p available v = .ends v events (.error f)) ∨
      ∃ events language, start p available v = .waits v events (.startBase language p.spaces) ∧
        (language = v.language ∨ language = p.fallbackLanguage ∨
          ∃ l ∈ available, language = .text l) := by
  unfold start
  split
  · exact .inr ⟨_, _, rfl, .inl rfl⟩
  · simp only
    split
    · exact .inl ⟨_, _, rfl⟩
    · rename_i hresult
      exact .inr ⟨_, _, rfl, .inr (Detector.detect_eq_ok hresult)⟩
    · exact .inl ⟨_, _, rfl⟩

end Call
end Polyglot
