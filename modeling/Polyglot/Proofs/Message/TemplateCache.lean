import Polyglot.Message.History
import Polyglot.Proofs.Message.Formatter

/-!
# The templates of a formatter

What formatting yields is what a new formatter of the active language would yield, although
templates are kept from one call to the next. Which ones are kept follows from the calls: those
that were made last, in the order in which they were made.
-/
namespace Polyglot.Message

/-! ## Making room -/

namespace FormatterPast

variable {capacity : Option Nat} {p : FormatterPast}

theorem length_kept_le {n : Nat} : (p.kept (some n)).length ≤ n := by
  simp only [kept, List.length_drop]
  omega

/-- One more template takes its place behind the others. The one that was made first makes room
for it if there is none. -/
theorem kept_append (hcapacity : ∀ n ∈ capacity, 1 ≤ n) (message : String) :
    kept capacity { p with made := p.made ++ [message] } =
      (if capacity.any fun n => n ≤ (p.kept capacity).length then (p.kept capacity).drop 1
        else p.kept capacity) ++ [message] := by
  cases capacity with
  | none => rfl
  | some n =>
    have hn : 1 ≤ n := hcapacity n rfl
    simp only [kept, Option.any_some, List.length_append, List.length_singleton, List.length_drop,
      decide_eq_true_eq]
    rw [List.drop_append_of_le_length (by omega)]
    split
    · rw [List.drop_drop]
      congr 2
      omega
    · congr 2
      omega

end FormatterPast

namespace Formatter

variable {capacity : Option Nat} {currency : Option String} {library : LocaleLibrary}
  {f : Formatter} {p : FormatterPast}

/-! ## What is kept -/

/-- Whether a formatter has the language of its past, and keeps the templates that follow from it:
each one is the parse of a message that needs it, in the active locale. -/
structure Follows (capacity : Option Nat) (currency : Option String) (library : LocaleLibrary)
    (p : FormatterPast) (f : Formatter) : Prop where
  library_eq : f.library = library
  language : f.language = .text p.language
  locale : f.locale = Locale.resolve p.language library
  capacity_eq : f.capacity = capacity
  currency_eq : f.currency = currency
  keys : Entries.keys f.cache = p.kept capacity
  needed : ∀ message ∈ Entries.keys f.cache, needsTemplate message = true
  coherent : f.IsCoherent

/-- A formatter without templates follows from a past in which they were dropped. -/
theorem Follows.dropped {language : String} (hlibrary : f.library = library)
    (hlanguage : f.language = .text language) (hlocale : f.locale = Locale.resolve language library)
    (hcapacity : f.capacity = capacity) (hcurrency : f.currency = currency)
    (hcache : f.cache = []) : f.Follows capacity currency library ⟨language, []⟩ where
  library_eq := hlibrary
  language := hlanguage
  locale := hlocale
  capacity_eq := hcapacity
  currency_eq := hcurrency
  keys := by cases capacity <;> simp [FormatterPast.kept, hcache, Entries.keys]
  needed := by simp [hcache, Entries.keys]
  coherent := by
    intro message t hmem
    rw [hcache] at hmem
    cases hmem

theorem follows_create (language : String) (capacity : Option Nat) (currency : Option String)
    (library : LocaleLibrary) :
    (create language capacity currency library).Follows capacity currency library
      ⟨language, []⟩ :=
  .dropped rfl rfl rfl rfl rfl rfl

theorem Follows.keep (hcapacity : ∀ n ∈ capacity, 1 ≤ n) (h : f.Follows capacity currency library p)
    {message : String} {nodes : List Node} (hneeds : needsTemplate message = true)
    (hparse : parse message = .ok nodes) (hnew : Entries.get? f.cache message = none) :
    (f.keep message ⟨nodes, f.locale, f.currency⟩).Follows capacity currency library
      { p with made := p.made ++ [message] } := by
  have hkept : Entries.get? (if f.isFull then f.cache.drop 1 else f.cache) message = none := by
    rw [Entries.get?_eq_none_iff] at hnew ⊢
    split
    · rw [Entries.keys, List.map_drop]
      exact fun hmem => hnew (List.mem_of_mem_drop hmem)
    · exact hnew
  have hlength : (p.kept capacity).length = f.cache.length := by
    rw [← h.keys, Entries.keys, List.length_map]
  have hkeys : Entries.keys (f.keep message ⟨nodes, f.locale, f.currency⟩).cache =
      (if f.isFull then (p.kept capacity).drop 1 else p.kept capacity) ++ [message] := by
    rw [Formatter.keep, Entries.put_of_get?_eq_none hkept, Entries.keys, List.map_append, ← h.keys]
    split <;> simp [Entries.keys]
  refine ⟨h.library_eq, h.language, h.locale, h.capacity_eq, h.currency_eq, ?_, ?_,
    h.coherent.keep hparse⟩
  · rw [hkeys, FormatterPast.kept_append hcapacity, isFull, h.capacity_eq, hlength]
  · intro m hm
    rw [hkeys, ← h.keys] at hm
    rcases List.mem_append.1 hm with hold | hlast
    · apply h.needed
      split at hold
      · exact List.mem_of_mem_drop hold
      · exact hold
    · rw [List.mem_singleton.1 hlast]
      exact hneeds

/-! ## Calls -/

/-- Formatting makes a template exactly when the message needs one that is not kept. -/
theorem Follows.format (hcapacity : ∀ n ∈ capacity, 1 ≤ n)
    (h : f.Follows capacity currency library p) (message : String) (values : Bundle) :
    (f.format message values).formatter.Follows capacity currency library
      (p.after capacity (.format message values)) := by
  have hnew : message ∉ p.kept capacity ↔ Entries.get? f.cache message = none := by
    rw [← h.keys, Entries.get?_eq_none_iff]
  rw [format_formatter, FormatterPast.after]
  by_cases hsimple : message = "" ∨ isInterpolation message = true
  · have hneeds : needsTemplate message = false := by
      rcases hsimple with rfl | hsimple
      · rfl
      · simp [needsTemplate, hsimple]
    rw [if_pos hsimple, if_neg (by simp [hneeds])]
    exact h
  rw [if_neg hsimple]
  obtain ⟨hne, hnot⟩ := not_or.1 hsimple
  unfold Formatter.compile
  cases hget : Entries.get? f.cache message with
  | some t =>
    have hold : ¬ message ∉ p.kept capacity := by
      rw [hnew, hget]
      exact Option.some_ne_none t
    rw [if_neg fun hboth => hold hboth.2]
    exact h
  | none =>
    cases hparse : parse message with
    | error e =>
      have hneeds : needsTemplate message = false := by simp [needsTemplate, hparse, Except.toBool]
      rw [if_neg (by simp [hneeds])]
      exact h
    | ok nodes =>
      have hneeds : needsTemplate message = true := by
        simp [needsTemplate, hne, hnot, hparse, Except.toBool]
      rw [if_pos ⟨hneeds, hnew.2 hget⟩]
      exact h.keep hcapacity hneeds hparse hget

theorem Follows.setLanguage (h : f.Follows capacity currency library p) (language : String) :
    (f.setLanguage language).formatter.Follows capacity currency library
      (p.after capacity (.setLanguage language)) := by
  have hsame : Key.text language = f.language ↔ language = p.language := by
    rw [h.language, Key.text.injEq]
  rw [FormatterPast.after]
  unfold Formatter.setLanguage
  by_cases heq : language = p.language
  · rw [if_pos (hsame.2 heq), if_pos heq]
    exact h
  · rw [if_neg (fun hlanguage => heq (hsame.1 hlanguage)), if_neg heq]
    refine .dropped h.library_eq rfl ?_ h.capacity_eq h.currency_eq rfl
    rw [Key.toValue, SettingsFault.letters, h.library_eq]

theorem Follows.act (hcapacity : ∀ n ∈ capacity, 1 ≤ n) (h : f.Follows capacity currency library p)
    (call : FormatterCall) :
    (f.act call).Follows capacity currency library (p.after capacity call) := by
  cases call with
  | format message values => exact h.format hcapacity message values
  | setLanguage language => exact h.setLanguage language
  | clearCache => exact .dropped h.library_eq h.language h.locale h.capacity_eq h.currency_eq rfl

theorem Follows.run (hcapacity : ∀ n ∈ capacity, 1 ≤ n) (h : f.Follows capacity currency library p)
    (calls : List FormatterCall) :
    (f.run calls).Follows capacity currency library
      (calls.foldl (FormatterPast.after capacity) p) := by
  induction calls generalizing f p with
  | nil => exact h
  | cons call rest ih => exact ih (h.act hcapacity call)

/-! ## What formatting yields -/

/-- Kept templates change neither the result of formatting nor its reports. -/
theorem IsCoherent.format_eq (hf : f.IsCoherent) (message : String) (values : Bundle) :
    (f.format message values).result = (f.clearCache.format message values).result ∧
      (f.format message values).events = (f.clearCache.format message values).events := by
  have hempty : f.clearCache.IsCoherent := fun _ _ hmem => nomatch hmem
  have hkept := (hf.compile message).2
  have hnone := (hempty.compile message).2
  unfold Formatter.format
  split
  · exact ⟨rfl, rfl⟩
  split
  · exact ⟨rfl, rfl⟩
  simp only [hkept, hnone]
  cases parse message with
  | error e =>
    simp only [Except.map]
    split <;> exact ⟨rfl, rfl⟩
  | ok nodes =>
    simp only [Except.map, clearCache]
    cases Template.render ⟨nodes, f.locale, f.currency⟩ values with
    | ok s => exact ⟨rfl, rfl⟩
    | error e =>
      simp only
      split <;> exact ⟨rfl, rfl⟩

/-- After any calls a formatter formats every message as a new one for its language does. Its
templates are those of the messages that needed one last, in the order in which they were made, as
many as there is room for; each one is the parse of its message in the active locale. -/
theorem format_run (hcapacity : ∀ n ∈ capacity, 1 ≤ n) (language : String)
    (currency : Option String) (library : LocaleLibrary) (calls : List FormatterCall) :
    let f := (create language capacity currency library).run calls
    let p := FormatterPast.ofCalls capacity language calls
    (∀ message values,
      (f.format message values).result =
          ((create p.language capacity currency library).format message values).result ∧
        (f.format message values).events =
          ((create p.language capacity currency library).format message values).events) ∧
      f.language = .text p.language ∧
      Entries.keys f.cache = p.kept capacity ∧
      (∀ n ∈ capacity, f.cache.length ≤ n) ∧
      ∀ message t, (message, t) ∈ f.cache → needsTemplate message = true ∧
        ∃ nodes, parse message = .ok nodes ∧
          t = ⟨nodes, Locale.resolve p.language library, currency⟩ := by
  intro f p
  have h : f.Follows capacity currency library p :=
    (follows_create language capacity currency library).run hcapacity calls
  have hnew : f.clearCache = create p.language capacity currency library := by
    rw [clearCache, h.library_eq, h.language, h.locale, h.capacity_eq, h.currency_eq, create]
  refine ⟨fun message values => hnew ▸ h.coherent.format_eq message values, h.language, h.keys,
    ?_, ?_⟩
  · rintro n rfl
    have hlength : f.cache.length = (p.kept (some n)).length := by
      rw [← h.keys, Entries.keys, List.length_map]
    rw [hlength]
    exact FormatterPast.length_kept_le
  · intro message t hmem
    obtain ⟨nodes, hparse, ht⟩ := h.coherent message t hmem
    rw [h.locale, h.currency_eq] at ht
    exact ⟨h.needed message (List.mem_map.2 ⟨_, hmem, rfl⟩), nodes, hparse, ht⟩

/-- Three messages for a formatter with room for two templates; the first is used again before the
third is made, in a language that replaced another one. -/
def reuseCalls : List FormatterCall :=
  [.format "\x7bn, date\x7d" [], .setLanguage "de", .format "\x7bn, number\x7d" [("n", .int 1000)],
    .format "\x7bn, time\x7d" [], .format "\x7bn, number\x7d" [("n", .int 2000)],
    .format "\x7bn, number, percent\x7d" [("n", .int 1)]]

theorem format_run_reuseCalls :
    (∀ n ∈ some 2, 1 ≤ n) ∧
      let f := (create "en" (some 2) (some "EUR")).run reuseCalls
      Entries.keys f.cache = ["\x7bn, time\x7d", "\x7bn, number, percent\x7d"] ∧
        (f.format "\x7bn, number\x7d" [("n", .int 1000)]).result =
          ((create "de" (some 2) (some "EUR")).format "\x7bn, number\x7d"
            [("n", .int 1000)]).result := by
  have hcapacity : ∀ n ∈ some 2, 1 ≤ n := by simp
  obtain ⟨hformat, -, hkeys, -, -⟩ := format_run hcapacity "en" (some "EUR") .known reuseCalls
  have hkept : (FormatterPast.ofCalls (some 2) "en" reuseCalls).kept (some 2) =
      ["\x7bn, time\x7d", "\x7bn, number, percent\x7d"] := by decide +kernel
  have hlanguage : (FormatterPast.ofCalls (some 2) "en" reuseCalls).language = "de" := by
    decide +kernel
  rw [hlanguage] at hformat
  exact ⟨hcapacity, hkeys.trans hkept, (hformat _ _).1⟩

end Formatter
end Polyglot.Message
