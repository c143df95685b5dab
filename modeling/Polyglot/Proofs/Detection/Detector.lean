import Polyglot.Detection.Detector

/-!
# Detected languages

What a detector answers is a supported language or the fallback, and storing a choice fails only
with a failure that is not one of a store.
-/
namespace Polyglot.Detector

variable {d : Detector} {supported : List String} {fallback k : Key} {f : Failure}

theorem ask_eq_ok {order : List String} (h : (d.ask supported fallback order).result = .ok k) :
    k = fallback ∨ ∃ language ∈ supported, k = .text language := by
  fun_induction ask d supported fallback order with
  | case1 =>
    cases h
    exact .inl rfl
  | case2 name rest hs ih => exact ih h
  | case3 name rest s hs f hf hstore o ih => exact ih h
  | case4 name rest s hs f hf hstore => cases h
  | case5 name rest s hs hf o ih => exact ih h
  | case6 name rest s hs language hf hsupported =>
    cases h
    exact .inr ⟨language, hsupported.2, rfl⟩
  | case7 name rest s hs language hf hsupported o ih => exact ih h

/-- A detected language is supported, or it is the fallback. -/
theorem detect_eq_ok (h : (d.detect supported fallback).result = .ok k) :
    k = fallback ∨ ∃ language ∈ supported, k = .text language :=
  ask_eq_ok h

/-! ## Storing a choice -/

theorem storeAll_eq_error {language : Option String} {report : String → String → Event}
    {names : List String} (h : (d.storeAll language report names).result = .error f) :
    isStoreFailure f = false := by
  fun_induction storeAll d language report names with
  | case1 => cases h
  | case2 d name rest hs ih => exact ih h
  | case3 d name rest s hs hpersistent ih => exact ih h
  | case4 d name rest s hs hpersistent s' c hstore ih => exact ih h
  | case5 d name rest s hs hpersistent f' hstore hfailure o ih => exact ih h
  | case6 d name rest s hs hpersistent f' hstore hfailure =>
    cases h
    simpa using hfailure

theorem remember_eq_error {language : String}
    (h : (d.remember language supported).result = .error f) : isStoreFailure f = false := by
  unfold remember at h
  split at h
  · cases h
  · exact storeAll_eq_error h

/-- Storing a choice never fails as a load does, since such failures are those of a store. -/
theorem kind_ne_loadFailed_of_remember {language : String}
    (h : (d.remember language supported).result = .error f) : f.kind ≠ .loadFailed := by
  intro hkind
  have hstore := remember_eq_error h
  have hload : FailureKind.loadFailed.isA .infrastructure = true := by decide +kernel
  simp [isStoreFailure, Failure.isOneOf, Failure.isA, hkind, hload] at hstore

end Polyglot.Detector
