import Polyglot.Message.Formatter
import Polyglot.Proofs.Entries

/-!
# Formatters

What every formatter has in common, however it was used: the templates that it keeps are the parses
of their messages in its locale. What formatting yields therefore does not depend on them.
-/
namespace Polyglot.Message.Formatter

/-- The formatters that there are: a new one, and what becomes of it by use. -/
inductive Reachable : Formatter → Prop
  | create (language : String) (capacity : Option Nat) (currency : Option String)
      (library : LocaleLibrary) : Reachable (.create language capacity currency library)
  | format {f : Formatter} (h : Reachable f) (message : String) (values : Bundle) :
      Reachable (f.format message values).formatter
  | setLanguage {f : Formatter} (h : Reachable f) (language : Key) :
      Reachable (f.setLanguage language).formatter
  | clearCache {f : Formatter} (h : Reachable f) : Reachable f.clearCache

/-- Whether every kept template is the parse of its message in the active locale. -/
def IsCoherent (f : Formatter) : Prop :=
  ∀ message t, (message, t) ∈ f.cache → ∃ nodes, parse message = .ok nodes ∧
    t = ⟨nodes, f.locale, f.currency⟩

theorem IsCoherent.keep {f : Formatter} (hf : f.IsCoherent) {message : String}
    {nodes : List Node} (hp : parse message = .ok nodes) :
    (f.keep message ⟨nodes, f.locale, f.currency⟩).IsCoherent := by
  intro m t hmem
  rcases Entries.mem_put hmem with heq | hkept
  · cases heq
    exact ⟨nodes, hp, rfl⟩
  · apply hf m t
    split at hkept
    · exact List.mem_of_mem_drop hkept
    · exact hkept

/-- Compiling yields the parse of the message in the active locale, kept or not. -/
theorem IsCoherent.compile {f : Formatter} (hf : f.IsCoherent) (message : String) :
    (f.compile message).1.IsCoherent ∧
      (f.compile message).2 = (parse message).map fun nodes => ⟨nodes, f.locale, f.currency⟩ := by
  unfold Formatter.compile
  split
  · rename_i t ht
    obtain ⟨nodes, hp, rfl⟩ := hf message t (Entries.mem_of_get? ht)
    exact ⟨hf, by rw [hp]; rfl⟩
  · split
    · rename_i e he
      exact ⟨hf, by rw [he]; rfl⟩
    · rename_i nodes hp
      exact ⟨hf.keep hp, by rw [hp]; rfl⟩

theorem format_formatter (f : Formatter) (message : String) (values : Bundle) :
    (f.format message values).formatter =
      if message = "" ∨ isInterpolation message = true then f else (f.compile message).1 := by
  unfold format
  by_cases hm : message = ""
  · rw [if_pos hm, if_pos (.inl hm)]
  by_cases hi : isInterpolation message = true
  · rw [if_neg hm, if_pos hi, if_pos (.inr hi)]
  rw [if_neg hm, if_neg hi, if_neg (not_or.2 ⟨hm, hi⟩)]
  simp only
  split
  · split <;> rfl
  · split
    · rfl
    · split <;> rfl

theorem compile_language (f : Formatter) (message : String) :
    (f.compile message).1.language = f.language := by
  unfold compile
  split
  · rfl
  · split <;> rfl

@[simp] theorem format_language (f : Formatter) (message : String) (values : Bundle) :
    (f.format message values).formatter.language = f.language := by
  rw [format_formatter]
  split
  · rfl
  · exact f.compile_language message

@[simp] theorem setLanguage_language (f : Formatter) (language : Key) :
    (f.setLanguage language).formatter.language = language := by
  unfold setLanguage
  split
  · rename_i h
    exact h.symm
  · split <;> rfl

/-- A formatter refuses no language that is a text. -/
theorem setLanguage_text_result (f : Formatter) (language : String) :
    (f.setLanguage (.text language)).result = .ok () := by
  unfold setLanguage
  split <;> rfl

theorem Reachable.isCoherent {f : Formatter} (h : f.Reachable) : f.IsCoherent := by
  induction h with
  | create language capacity currency =>
    intro m t hmem
    cases hmem
  | format h message values ih =>
    rw [format_formatter]
    split
    · exact ih
    · exact (ih.compile message).1
  | setLanguage h language ih =>
    unfold Formatter.setLanguage
    split
    · exact ih
    · split
      · exact ih
      · intro m t hmem
        cases hmem
  | clearCache h ih =>
    intro m t hmem
    cases hmem

/-- What formatting yields does not depend on which templates are kept. -/
theorem IsCoherent.format_result {f : Formatter} (hf : f.IsCoherent) (message : String)
    (values : Bundle) :
    (f.format message values).result =
      if message = "" then .ok message
      else if isInterpolation message = true then
        (interpolate f.locale values message).mapError .render
      else
        match parse message with
        | .error e => if e.fault.isRecovered then .ok message else .error (.syntaxError e)
        | .ok nodes =>
            match Template.render ⟨nodes, f.locale, f.currency⟩ values with
            | .ok s => .ok s
            | .error e => if e.isRecovered then .ok message else .error (.render e) := by
  have hc := (hf.compile message).2
  unfold Formatter.format
  split
  · rfl
  split
  · rfl
  simp only [hc]
  cases parse message with
  | error e =>
    simp only [Except.map]
    split <;> rfl
  | ok nodes =>
    simp only [Except.map]
    cases Template.render ⟨nodes, f.locale, f.currency⟩ values with
    | ok s => rfl
    | error e =>
      simp only
      split <;> rfl

end Polyglot.Message.Formatter
