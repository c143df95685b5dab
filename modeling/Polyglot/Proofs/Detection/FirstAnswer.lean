import Polyglot.Detection.Acting
import Polyglot.Detection.Run
import Polyglot.Proofs.Entries

/-!
# The first answer

Detection answers with the first language in its order that is supported. It passes over names
without a strategy, over stores that fail and over other answers, and asks nobody behind the first
language. What strategies do when they are asked happens in this order and no further; built-in
ones do nothing, and without others the detector stays as it was.
-/
namespace Polyglot.Detector

/-! ## Consulting -/

def Accepts (supported : List String) (answer : Except Failure (Option String))
    (language : String) : Prop :=
  answer = .ok (some language) ∧ language ≠ "" ∧ language ∈ supported

/-- The answers of the strategies that were consulted, by their names, and the detector then. -/
structure Consulted where
  answers : List (String × Except Failure (Option String))
  detector : Detector

/-- The names of the strategies that were consulted. -/
def Consulted.names (r : Consulted) : List String := r.answers.map (·.1)

/-- Consults the strategies of some names one after the other, whatever they answer. -/
def consultAll (d : Detector) (acts : Acts) (o : DetectionOptions) (supported : List String) :
    List String → Consulted
  | [] => ⟨[], d⟩
  | name :: rest =>
      match Entries.get? d.strategies name with
      | none => d.consultAll acts o supported rest
      | some s =>
          let r := (s.act acts name d).consultAll acts o supported rest
          ⟨(name, s.lookup o supported d.context) :: r.answers, r.detector⟩

variable {d e : Detector} {acts : Acts} {o : DetectionOptions} {supported : List String}
  {fallback : Key} {name n : String} {s t : Strategy} {before rest : List String}
  {language : String}

theorem consultAll_of_none (hn : Entries.get? d.strategies n = none) :
    d.consultAll acts o supported (n :: rest) = d.consultAll acts o supported rest := by
  simp only [consultAll, hn]

theorem consultAll_of_some (ht : Entries.get? d.strategies n = some t) :
    d.consultAll acts o supported (n :: rest) =
      let r := (t.act acts n d).consultAll acts o supported rest
      ⟨(n, t.lookup o supported d.context) :: r.answers, r.detector⟩ := by
  simp only [consultAll, ht]

theorem answers_consultAll_append (names rest : List String) :
    (d.consultAll acts o supported (names ++ rest)).answers =
      let c := d.consultAll acts o supported names
      c.answers ++ (c.detector.consultAll acts o supported rest).answers := by
  induction names generalizing d with
  | nil => rfl
  | cons n names ih =>
    rw [List.cons_append]
    cases hn : Entries.get? d.strategies n with
    | none => rw [consultAll_of_none hn, consultAll_of_none hn, ih]
    | some t =>
      rw [consultAll_of_some hn, consultAll_of_some hn]
      exact congrArg _ ih

/-! ## Turns -/

/-- Whether a strategy has its turn behind some names of an order: it is registered under its name
then, and no answer of those before it is accepted. -/
structure HasTurn (d : Detector) (acts : Acts) (o : DetectionOptions) (supported : List String)
    (order before : List String) (name : String) (s : Strategy) : Prop where
  order : ∃ after, order = before ++ name :: after
  passed : ∀ a ∈ (d.consultAll acts o supported before).answers,
    ∀ language, ¬Accepts supported a.2 language
  registered :
    Entries.get? (d.consultAll acts o supported before).detector.strategies name = some s

theorem hasTurn_nil (hs : Entries.get? d.strategies name = some s) :
    d.HasTurn acts o supported (name :: rest) [] name s where
  order := ⟨rest, rfl⟩
  passed := fun _ h => nomatch h
  registered := hs

theorem HasTurn.cons_of_none (hn : Entries.get? d.strategies n = none)
    (h : d.HasTurn acts o supported rest before name s) :
    d.HasTurn acts o supported (n :: rest) (n :: before) name s where
  order := by
    obtain ⟨after, rfl⟩ := h.order
    exact ⟨after, rfl⟩
  passed := by
    rw [consultAll_of_none hn]
    exact h.passed
  registered := by
    rw [consultAll_of_none hn]
    exact h.registered

theorem HasTurn.cons_of_some (ht : Entries.get? d.strategies n = some t)
    (hnot : ∀ language, ¬Accepts supported (t.lookup o supported d.context) language)
    (h : (t.act acts n d).HasTurn acts o supported rest before name s) :
    d.HasTurn acts o supported (n :: rest) (n :: before) name s where
  order := by
    obtain ⟨after, rfl⟩ := h.order
    exact ⟨after, rfl⟩
  passed := by
    rw [consultAll_of_some ht]
    exact List.forall_mem_cons.2 ⟨hnot, h.passed⟩
  registered := by
    rw [consultAll_of_some ht]
    exact h.registered

/-- Whoever has a turn is among those whom the order names. -/
theorem HasTurn.mem_answers {order : List String}
    (h : d.HasTurn acts o supported order before name s) :
    let c := d.consultAll acts o supported before
    (name, s.lookup o supported c.detector.context) ∈
      (d.consultAll acts o supported order).answers := by
  intro c
  obtain ⟨after, rfl⟩ := h.order
  rw [answers_consultAll_append]
  refine List.mem_append_right _ ?_
  rw [consultAll_of_some h.registered]
  exact List.mem_cons_self

/-! ## One strategy -/

theorem askActing_of_none (hn : Entries.get? d.strategies n = none) :
    d.askActing acts o supported fallback (n :: rest) =
      d.askActing acts o supported fallback rest := by
  simp only [askActing, hn]

theorem askActing_of_accepts (hs : Entries.get? d.strategies name = some s)
    (h : Accepts supported (s.lookup o supported d.context) language) :
    d.askActing acts o supported fallback (name :: rest) =
      ⟨⟨[name], [.languageDetected name language], .ok language⟩, s.act acts name d⟩ := by
  obtain ⟨hanswer, haccepted⟩ := h
  simp only [askActing, hs, hanswer, if_pos haccepted]

/-- A strategy without an accepted answer is passed over, also when its store fails. -/
theorem askActing_of_passed (ht : Entries.get? d.strategies n = some t)
    (hnot : ∀ language, ¬Accepts supported (t.lookup o supported d.context) language)
    (hstore : ∀ f, t.lookup o supported d.context = .error f → isStoreFailure f = true) :
    ∃ events, d.askActing acts o supported fallback (n :: rest) =
      ((t.act acts n d).askActing acts o supported fallback rest).behind n events := by
  cases hanswer : t.lookup o supported d.context with
  | error f =>
    refine ⟨[.detectorLookupFailed n f.text], ?_⟩
    simp only [askActing, ht, hanswer, if_pos (hstore f hanswer)]
  | ok answer =>
    refine ⟨[], ?_⟩
    cases answer with
    | none => simp only [askActing, ht, hanswer]
    | some language =>
      have hrefused : ¬(language ≠ "" ∧ language ∈ supported) := fun h => hnot language ⟨hanswer, h⟩
      simp only [askActing, ht, hanswer, if_neg hrefused]

/-! ## A whole order -/

/-- Whether detection ended with an accepted answer: the strategy had its turn, and nobody behind
it was asked. -/
def EndsAccepted (d : Detector) (acts : Acts) (o : DetectionOptions) (supported : List String)
    (order : List String) (r : Acted) : Prop :=
  ∃ before name s language, d.HasTurn acts o supported order before name s ∧
    let c := d.consultAll acts o supported before
    Accepts supported (s.lookup o supported c.detector.context) language ∧
      r.result = .ok (.text language) ∧ r.asked = c.names ++ [name] ∧
      r.detector = s.act acts name c.detector

/-- Whether detection ended with the fallback: everybody was asked, and no answer was accepted. -/
def EndsFallback (d : Detector) (acts : Acts) (o : DetectionOptions) (supported : List String)
    (fallback : Key) (order : List String) (r : Acted) : Prop :=
  let c := d.consultAll acts o supported order
  (∀ a ∈ c.answers, ∀ language, ¬Accepts supported a.2 language) ∧
    r.result = .ok fallback ∧ r.asked = c.names ∧ r.detector = c.detector

variable {order : List String} {r : Acted}

theorem EndsAccepted.cons_of_none (hn : Entries.get? d.strategies n = none)
    (h : d.EndsAccepted acts o supported rest r) :
    d.EndsAccepted acts o supported (n :: rest) r := by
  obtain ⟨before, name, s, language, hturn, hend⟩ := h
  refine ⟨n :: before, name, s, language, hturn.cons_of_none hn, ?_⟩
  rwa [consultAll_of_none hn]

theorem EndsAccepted.cons_of_some (ht : Entries.get? d.strategies n = some t)
    (hnot : ∀ language, ¬Accepts supported (t.lookup o supported d.context) language)
    (h : (t.act acts n d).EndsAccepted acts o supported rest r) (events : List Event) :
    d.EndsAccepted acts o supported (n :: rest) (r.behind n events) := by
  obtain ⟨before, name, s, language, hturn, hlanguage, hresult, hasked, hdetector⟩ := h
  refine ⟨n :: before, name, s, language, hturn.cons_of_some ht hnot, ?_⟩
  rw [consultAll_of_some ht]
  exact ⟨hlanguage, hresult, congrArg (n :: ·) hasked, hdetector⟩

theorem EndsFallback.cons_of_none (hn : Entries.get? d.strategies n = none)
    (h : d.EndsFallback acts o supported fallback rest r) :
    d.EndsFallback acts o supported fallback (n :: rest) r := by
  rwa [EndsFallback, consultAll_of_none hn]

theorem EndsFallback.cons_of_some (ht : Entries.get? d.strategies n = some t)
    (hnot : ∀ language, ¬Accepts supported (t.lookup o supported d.context) language)
    (h : (t.act acts n d).EndsFallback acts o supported fallback rest r) (events : List Event) :
    d.EndsFallback acts o supported fallback (n :: rest) (r.behind n events) := by
  obtain ⟨hpassed, hresult, hasked, hdetector⟩ := h
  rw [EndsFallback, consultAll_of_some ht]
  exact ⟨List.forall_mem_cons.2 ⟨hnot, hpassed⟩, hresult, congrArg (n :: ·) hasked, hdetector⟩

/-- Detection ends with the first answer that is accepted, or with the fallback. -/
theorem ends_askActing
    (h : ∀ before name s f, d.HasTurn acts o supported order before name s →
      s.lookup o supported (d.consultAll acts o supported before).detector.context = .error f →
        isStoreFailure f = true) :
    let r := d.askActing acts o supported fallback order
    d.EndsAccepted acts o supported order r ∨ d.EndsFallback acts o supported fallback order r := by
  induction order generalizing d with
  | nil => exact .inr ⟨fun _ h => (nomatch h), rfl, rfl, rfl⟩
  | cons n rest ih =>
    cases hn : Entries.get? d.strategies n with
    | none =>
      rw [askActing_of_none hn]
      have hrest := ih (d := d) fun before name s f hturn hf =>
        h (n :: before) name s f (hturn.cons_of_none hn) (by rwa [consultAll_of_none hn])
      exact hrest.imp (.cons_of_none hn) (.cons_of_none hn)
    | some t =>
      by_cases haccepted : ∃ language, Accepts supported (t.lookup o supported d.context) language
      · obtain ⟨language, hlanguage⟩ := haccepted
        rw [askActing_of_accepts hn hlanguage]
        exact .inl ⟨[], n, t, language, hasTurn_nil hn, hlanguage, rfl, rfl, rfl⟩
      · -- The others have their turns at the detector as this strategy leaves it.
        have hnot := not_exists.1 haccepted
        obtain ⟨events, hask⟩ := askActing_of_passed hn hnot (h [] n t · (hasTurn_nil hn))
        have hrest := ih (d := t.act acts n d) fun before name s f hturn hf =>
          h (n :: before) name s f (hturn.cons_of_some hn hnot) (by rwa [consultAll_of_some hn])
        rw [hask]
        exact hrest.imp (·.cons_of_some hn hnot events) (·.cons_of_some hn hnot events)

/-! ## Without acts -/

theorem act_eq_self (hs : Entries.get? d.strategies name = some s)
    (h : ∀ t, Entries.get? d.strategies name = some (.custom t) → acts name t d = d) :
    s.act acts name d = d := by
  cases s with
  | builtIn kind => rfl
  | custom t => exact h t hs

/-- When nobody who is asked acts, detection is as it is without acts, and the detector stays. -/
theorem askActing_eq_ask
    (h : ∀ name ∈ (d.ask supported fallback order).asked, ∀ t,
      Entries.get? d.strategies name = some (.custom t) → acts name t d = d) :
    d.askActing acts d.options supported fallback order =
      ⟨d.ask supported fallback order, d⟩ := by
  fun_induction ask d supported fallback order with
  | case1 => rfl
  | case2 name rest hs ih => rw [askActing_of_none hs, ih h]
  | case3 name rest s hs f hf hstore r ih =>
    have hact := act_eq_self hs (h name List.mem_cons_self)
    have hrest := ih (List.forall_mem_cons.1 h).2
    simp only [askActing, hs, hf, if_pos hstore, hact, hrest]
    rfl
  | case4 name rest s hs f hf hstore =>
    have hact := act_eq_self hs (h name List.mem_cons_self)
    simp only [askActing, hs, hf, if_neg hstore, hact]
  | case5 name rest s hs hnone r ih =>
    have hact := act_eq_self hs (h name List.mem_cons_self)
    have hrest := ih (List.forall_mem_cons.1 h).2
    simp only [askActing, hs, hnone, hact, hrest]
    rfl
  | case6 name rest s hs language hanswer hsupported =>
    have hact := act_eq_self hs (h name List.mem_cons_self)
    simp only [askActing, hs, hanswer, if_pos hsupported, hact]
  | case7 name rest s hs language hanswer hsupported r ih =>
    have hact := act_eq_self hs (h name List.mem_cons_self)
    have hrest := ih (List.forall_mem_cons.1 h).2
    simp only [askActing, hs, hanswer, if_neg hsupported, hact, hrest]
    rfl

/-! ## Detection -/

/-- If everybody who has a turn answers or fails with a store, detection ends with the first answer
that is accepted, or else with the fallback, and nobody behind that answer is asked. If nobody who
is asked acts, as the built-in strategies never do, the detector stays with its cookies and stores
as it was. -/
theorem ends_detectActing (d : Detector) (acts : Acts) (supported : List String) (fallback : Key)
    (h : ∀ before name s f, d.HasTurn acts d.options supported d.options.order before name s →
      let c := d.consultAll acts d.options supported before
      s.lookup d.options supported c.detector.context = .error f → isStoreFailure f = true) :
    let r := d.detectActing acts supported fallback
    (d.EndsAccepted acts d.options supported d.options.order r ∨
      d.EndsFallback acts d.options supported fallback d.options.order r) ∧
    ((∀ name ∈ (d.detect supported fallback).asked, ∀ t,
        Entries.get? d.strategies name = some (.custom t) → acts name t d = d) →
      r = ⟨d.detect supported fallback, d⟩) :=
  ⟨ends_askActing h, askActing_eq_ask⟩

/-- A detector with a strategy whose store fails, under a name that comes twice. -/
def withTenant : Detector :=
  (create
    { DetectionOptions.default with
      order := ["ghost", "tenant", "querystring", "localStorage", "tenant", "cookie"] }
    { DetectionContext.empty with
      cookies := .ofList [("lingx-lang", "en")]
      localStorage := some (.blocked (.plain .denied "storage is blocked")) }).useAll
    [.add "querystring" (.custom (.constant (.ok (some "ja")) false)), .remove "htmlTag",
      .add "tenant" (.custom (.constant (.error (.plain .system "database is down")) false))]

/-- The strategy answers from the second time on, and removes another one then. -/
def tenantActs : Acts := fun name _ d =>
  if name = "tenant" then
    (d.add "tenant" (.custom (.constant (.ok (some "de")) false))).remove "cookie"
  else d

theorem ends_detectActing_withTenant :
    let r := withTenant.detectActing tenantActs ["en", "de"] (.text "fr")
    withTenant.EndsAccepted tenantActs withTenant.options ["en", "de"] withTenant.options.order r ∧
      r.result = .ok (.text "de") ∧
      r.asked = ["tenant", "querystring", "localStorage", "tenant"] := by
  have hanswers : (withTenant.consultAll tenantActs withTenant.options ["en", "de"]
      withTenant.options.order).answers =
      [("tenant", .error (.plain .system "database is down")), ("querystring", .ok (some "ja")),
        ("localStorage", .error (.plain .denied "storage is blocked")),
        ("tenant", .ok (some "de"))] := rfl
  have hstore : ∀ a ∈ (withTenant.consultAll tenantActs withTenant.options ["en", "de"]
      withTenant.options.order).answers, ∀ f, a.2 = .error f → isStoreFailure f = true := by
    have hsystem : isStoreFailure (.plain .system "database is down") = true := by decide +kernel
    have hdenied : isStoreFailure (.plain .denied "storage is blocked") = true := by decide +kernel
    rw [hanswers]
    simp [hsystem, hdenied]
  intro r
  have hresult : r.result = .ok (.text "de") := by with_unfolding_all rfl
  obtain ⟨haccepted | ⟨-, hfallback, -⟩, -⟩ :=
    ends_detectActing withTenant tenantActs ["en", "de"] (.text "fr") fun before name s f hturn =>
      hstore _ hturn.mem_answers f
  · exact ⟨haccepted, hresult, by decide +kernel⟩
  · have hsame : Key.text "de" = .text "fr" := Except.ok.inj (hresult.symm.trans hfallback)
    exact absurd hsame (by decide)

end Polyglot.Detector
