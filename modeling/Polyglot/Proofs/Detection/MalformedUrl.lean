import Polyglot.Proofs.Client.ActiveView

/-!
# Malformed URLs

Detection ends with a language unless it comes to a strategy that stops it. Of the built-in
strategies only those that read a part of the URL do so, and only on a malformed URL: a blocked
store is passed over. A client that comes to such a strategy does not start.
-/
namespace Polyglot

/-! ## What stops a detector -/

namespace Detector

variable {d : Detector} {supported : List String} {fallback : Key}

/-- Whether the strategy of a name answers with a language that is supported. -/
def Answers (d : Detector) (supported : List String) (name : String) : Prop :=
  ∃ s language, Entries.get? d.strategies name = some s ∧
    s.lookup d.options supported d.context = .ok (some language) ∧
      language ≠ "" ∧ language ∈ supported

/-- Whether the strategy of a name fails, and not with its store. -/
def Stops (d : Detector) (supported : List String) (name : String) (f : Failure) : Prop :=
  ∃ s, Entries.get? d.strategies name = some s ∧
    s.lookup d.options supported d.context = .error f ∧ isStoreFailure f = false

/-- Whether detection comes to a strategy of some kind: none of the names before it answers. -/
def Reaches (d : Detector) (supported : List String) (good : String → Prop)
    (order : List String) : Prop :=
  ∃ before name after, order = before ++ name :: after ∧ good name ∧
    ∀ n ∈ before, ¬d.Answers supported n

theorem not_reaches_nil {good : String → Prop} : ¬d.Reaches supported good [] := by
  rintro ⟨before, name, after, h, -⟩
  exact List.cons_ne_nil name after (List.append_eq_nil_iff.1 h.symm).2

theorem reaches_cons {good : String → Prop} {name : String} {rest : List String} :
    d.Reaches supported good (name :: rest) ↔
      good name ∨ ¬d.Answers supported name ∧ d.Reaches supported good rest := by
  constructor
  · rintro ⟨before, n, after, h, hn, hbefore⟩
    cases before with
    | nil =>
      cases h
      exact .inl hn
    | cons m before =>
      cases h
      obtain ⟨hm, hbefore⟩ := List.forall_mem_cons.1 hbefore
      exact .inr ⟨hm, before, n, after, rfl, hn, hbefore⟩
  · rintro (hname | ⟨hname, before, n, after, rfl, hn, hbefore⟩)
    · exact ⟨[], name, rest, rfl, hname, fun _ h => nomatch h⟩
    · exact ⟨name :: before, n, after, rfl, hn, List.forall_mem_cons.2 ⟨hname, hbefore⟩⟩

/-- Detection fails only with what stops it. -/
theorem stops_of_ask_eq_error {order : List String} {f : Failure}
    (h : (d.ask supported fallback order).result = .error f) :
    ∃ name, d.Stops supported name f := by
  fun_induction ask d supported fallback order with
  | case1 => cases h
  | case2 name rest hs ih => exact ih h
  | case3 name rest s hs g hg hstore o ih => exact ih h
  | case4 name rest s hs g hg hstore =>
    cases h
    exact ⟨name, s, hs, hg, by simpa using hstore⟩
  | case5 name rest s hs hnone o ih => exact ih h
  | case6 name rest s hs language hanswer hsupported => cases h
  | case7 name rest s hs language hanswer hsupported o ih => exact ih h

/-- Detection fails if and only if it comes to a strategy that stops it. -/
theorem exists_ask_eq_error_iff {order : List String} :
    (∃ f, (d.ask supported fallback order).result = .error f) ↔
      d.Reaches supported (fun name => ∃ f, d.Stops supported name f) order := by
  fun_induction ask d supported fallback order with
  | case1 => simp [not_reaches_nil]
  | case2 name rest hs ih => simp [ih, reaches_cons, Answers, Stops, hs]
  | case3 name rest s hs f hf hstore o ih =>
    simp [o, ih, reaches_cons, Answers, Stops, hs, hf, hstore]
  | case4 name rest s hs f hf hstore =>
    simp [reaches_cons, Answers, Stops, hs, hf, hstore]
  | case5 name rest s hs hnone o ih =>
    simp [o, ih, reaches_cons, Answers, Stops, hs, hnone]
  | case6 name rest s hs language hanswer hsupported =>
    simp [reaches_cons, Answers, Stops, hs, hanswer, hsupported]
  | case7 name rest s hs language hanswer hsupported o ih =>
    have hnot : ¬d.Answers supported name := by
      rintro ⟨t, l, ht, hl, hmem⟩
      rw [hs] at ht
      cases ht
      rw [hanswer] at hl
      cases hl
      exact hsupported hmem
    simp [o, ih, reaches_cons, hnot, Stops, hs, hanswer]

end Detector

/-! ## What the built-in strategies do -/

/-- Whether the names of the cookie and of the stored text are texts. -/
structure DetectionOptions.HasTextNames (o : DetectionOptions) : Prop where
  cookieName : ∃ s, o.cookieName = .text s
  storageKey : ∃ s, o.storageKey = .text s

/-- Whether a blocked store fails as stores do. -/
structure DetectionContext.HasPassableStores (c : DetectionContext) : Prop where
  cookies : ∀ f, c.cookies = .blocked f → Detector.isStoreFailure f = true
  localStorage : ∀ f, c.localStorage = some (.blocked f) → Detector.isStoreFailure f = true
  sessionStorage : ∀ f, c.sessionStorage = some (.blocked f) → Detector.isStoreFailure f = true

/-- The stores of a request are not blocked. -/
theorem DetectionContext.hasPassableStores_ofRequest (url : String)
    (headers : List (String × String)) : (ofRequest url headers).HasPassableStores where
  cookies := fun _ h => nomatch h
  localStorage := fun _ h => nomatch h
  sessionStorage := fun _ h => nomatch h

namespace BuiltIn

variable {kind : BuiltIn} {o : DetectionOptions} {c : DetectionContext} {supported : List String}
  {f : Failure}

/-- Whether a strategy reads a part of the URL. -/
def readsUrl : BuiltIn → Bool
  | query => true
  | path => true
  | fragment => true
  | subdomain => true
  | _ => false

theorem stored_eq_error {store : Option KeyValueStore} {key : String}
    (h : stored store (.text key) = .error f) : store = some (.blocked f) := by
  match store, h with
  | some (.blocked g), h =>
    cases h
    rfl

theorem get_eq_error {cookies : CookieJar} {key : String}
    (h : cookies.get (.text key) = .error f) : cookies = .blocked f := by
  match cookies, h with
  | .blocked g, h =>
    cases h
    rfl

theorem inUrl_eq_error_iff {read : Url → Option String} :
    inUrl c read = .error f ↔ Url.parse? c.url = none ∧ f = malformedUrl := by
  unfold inUrl
  cases Url.parse? c.url with
  | some u => simp
  | none => simp [eq_comm]

/-- A built-in strategy that fails, and not with its store, reads a malformed URL. -/
theorem lookup_stops_iff (ho : o.HasTextNames) (hc : c.HasPassableStores) :
    (kind.lookup o supported c = .error f ∧ Detector.isStoreFailure f = false) ↔
      kind.readsUrl = true ∧ Url.parse? c.url = none ∧ f = malformedUrl := by
  obtain ⟨⟨name, hname⟩, key, hkey⟩ := ho
  have hurl : Detector.isStoreFailure malformedUrl = false := by decide +kernel
  have hpassed : ∀ {answer : Except Failure (Option String)} {p : Prop},
      (answer = .error f → Detector.isStoreFailure f = true) →
        ((answer = .error f ∧ Detector.isStoreFailure f = false) ↔ false = true ∧ p) := by
    intro answer p hstore
    constructor
    · rintro ⟨hf, hnot⟩
      exact absurd (hstore hf) (by simp [hnot])
    · rintro ⟨h, -⟩
      cases h
  cases kind with
  | cookie =>
    rw [lookup, hname]
    exact hpassed fun h => hc.cookies f (get_eq_error h)
  | localStorage =>
    rw [lookup, hkey]
    exact hpassed fun h => hc.localStorage f (stored_eq_error h)
  | sessionStorage =>
    rw [lookup, hkey]
    exact hpassed fun h => hc.sessionStorage f (stored_eq_error h)
  | navigator => simp [lookup, readsUrl]
  | document => simp [lookup, readsUrl]
  | query | path | fragment | subdomain =>
    simp only [lookup, inUrl_eq_error_iff, readsUrl, true_and]
    constructor
    · exact And.left
    · rintro ⟨hparse, rfl⟩
      exact ⟨⟨hparse, rfl⟩, hurl⟩

end BuiltIn

/-! ## Starting with a detector -/

namespace Call

variable {p : ClientPlan} {available : List String} {v : View} {d : Detector}

theorem start_of_detect_eq_error {f : Failure} (hd : v.detector = some d)
    (h : (d.detect available p.fallbackLanguage).result = .error f) :
    start p available v =
      .ends v (d.detect available p.fallbackLanguage).events (.error (.other f)) := by
  simp only [start, hd, h]

theorem start_of_detect_eq_ok {language : Key} (hd : v.detector = some d)
    (h : (d.detect available p.fallbackLanguage).result = .ok language) (hne : language ≠ .null) :
    start p available v =
      .waits v (d.detect available p.fallbackLanguage).events (.startBase language p.spaces) := by
  simp only [start, hd, h]

end Call

/-! ## Detection with the built-in strategies -/

namespace Detector

theorem get?_builtIns_iff {name : String} {s : Strategy} :
    Entries.get? builtIns name = some s ↔
      ∃ kind : BuiltIn, name = kind.name ∧ s = .builtIn kind := by
  constructor
  · intro h
    obtain ⟨kind, -, heq⟩ := List.mem_map.1 (Entries.mem_of_get? h)
    cases heq
    exact ⟨kind, rfl, rfl⟩
  · rintro ⟨kind, rfl, rfl⟩
    cases kind <;> rfl

variable {o : DetectionOptions} {c : DetectionContext} {supported : List String}

/-- Whether detection comes to a strategy that reads a malformed URL. -/
def MeetsMalformedUrl (d : Detector) (supported : List String) : Prop :=
  Url.parse? d.context.url = none ∧
    d.Reaches supported (fun name => ∃ kind : BuiltIn, name = kind.name ∧ kind.readsUrl = true)
      d.options.order

section Create

variable (ho : o.HasTextNames) (hc : c.HasPassableStores)
include ho hc

theorem stops_create_iff {name : String} {f : Failure} :
    (create o c).Stops supported name f ↔
      (∃ kind : BuiltIn, name = kind.name ∧ kind.readsUrl = true) ∧
        Url.parse? c.url = none ∧ f = BuiltIn.malformedUrl := by
  constructor
  · rintro ⟨s, hs, hlookup⟩
    obtain ⟨kind, rfl, rfl⟩ := get?_builtIns_iff.1 hs
    obtain ⟨hreads, hparse, hf⟩ := (BuiltIn.lookup_stops_iff ho hc).1 hlookup
    exact ⟨⟨kind, rfl, hreads⟩, hparse, hf⟩
  · rintro ⟨⟨kind, rfl, hreads⟩, hparse, hf⟩
    exact ⟨.builtIn kind, get?_builtIns_iff.2 ⟨kind, rfl, rfl⟩,
      (BuiltIn.lookup_stops_iff ho hc).2 ⟨hreads, hparse, hf⟩⟩

theorem exists_detect_eq_error_iff (fallback : Key) :
    (∃ f, ((create o c).detect supported fallback).result = .error f) ↔
      (create o c).MeetsMalformedUrl supported := by
  rw [detect, exists_ask_eq_error_iff]
  simp only [stops_create_iff ho hc, exists_and_left, exists_eq, and_true, MeetsMalformedUrl,
    Reaches]
  constructor
  · rintro ⟨before, name, after, horder, ⟨hreads, hparse⟩, hbefore⟩
    exact ⟨hparse, before, name, after, horder, hreads, hbefore⟩
  · rintro ⟨hparse, before, name, after, horder, hreads, hbefore⟩
    exact ⟨before, name, after, horder, ⟨hreads, hparse⟩, hbefore⟩

theorem detect_of_meetsMalformedUrl (fallback : Key)
    (h : (create o c).MeetsMalformedUrl supported) :
    ((create o c).detect supported fallback).result = .error BuiltIn.malformedUrl := by
  obtain ⟨f, hf⟩ := (exists_detect_eq_error_iff ho hc fallback).2 h
  obtain ⟨name, hstops⟩ := stops_of_ask_eq_error hf
  rw [hf, ((stops_create_iff ho hc).1 hstops).2.2]

theorem detect_of_not_meetsMalformedUrl (fallback : Key)
    (h : ¬(create o c).MeetsMalformedUrl supported) :
    ∃ k, ((create o c).detect supported fallback).result = .ok k ∧
      (k = fallback ∨ ∃ language ∈ supported, k = .text language) := by
  cases hresult : ((create o c).detect supported fallback).result with
  | error f => exact absurd ((exists_detect_eq_error_iff ho hc fallback).1 ⟨f, hresult⟩) h
  | ok k => exact ⟨k, rfl, detect_eq_ok hresult⟩

/-- Detection with the built-in strategies finds a supported language or the fallback, and a client
goes on to load its bundle, unless it comes to a strategy that reads a malformed URL. It fails
then, and so does the start of the client. -/
theorem detects_unless_meetsMalformedUrl :
    (∀ supported fallback,
      ((create o c).MeetsMalformedUrl supported →
        ((create o c).detect supported fallback).result = .error BuiltIn.malformedUrl) ∧
      (¬(create o c).MeetsMalformedUrl supported →
        ∃ k, ((create o c).detect supported fallback).result = .ok k ∧
          (k = fallback ∨ ∃ language ∈ supported, k = .text language))) ∧
    ∀ (σ : Type) (outside : Outside σ) (client : Client) (world : σ),
      client.view.detector = some (create o c) → client.plan.fallbackLanguage ≠ .null →
      ((create o c).MeetsMalformedUrl client.supportedLanguages →
        ∃ events, client.start outside world =
          ⟨world, client, events, .error (.other BuiltIn.malformedUrl)⟩) ∧
      (¬(create o c).MeetsMalformedUrl client.supportedLanguages →
        ∃ language events,
          (language = client.plan.fallbackLanguage ∨
            ∃ l ∈ client.supportedLanguages, language = .text l) ∧
          client.start outside world =
            (client.perform outside (.startBase language client.plan.spaces) world).after
              events) := by
  refine ⟨fun supported fallback => ⟨detect_of_meetsMalformedUrl ho hc fallback,
    detect_of_not_meetsMalformedUrl ho hc fallback⟩, ?_⟩
  intro σ outside client world hdetector hnull
  refine ⟨fun hmeets => ?_, fun hmeets => ?_⟩
  · have hstart := Call.start_of_detect_eq_error (p := client.plan) hdetector
      (detect_of_meetsMalformedUrl ho hc _ hmeets)
    refine ⟨((create o c).detect client.supportedLanguages client.plan.fallbackLanguage).events, ?_⟩
    rw [Client.start, hstart]
    rfl
  · obtain ⟨language, hok, hlanguage⟩ := detect_of_not_meetsMalformedUrl ho hc
      client.plan.fallbackLanguage hmeets
    have hne : language ≠ .null := by
      rcases hlanguage with rfl | ⟨l, -, rfl⟩
      · exact hnull
      · intro heq
        cases heq
    exact ⟨language, _, hlanguage,
      Client.start_eq_perform outside (Call.start_of_detect_eq_ok hdetector hok hne) world⟩

end Create

theorem hasTextNames_default : DetectionOptions.default.HasTextNames :=
  ⟨⟨_, rfl⟩, _, rfl⟩

/-- The first of the usual strategies reads the URL. -/
theorem meetsMalformedUrl_default (supported : List String)
    (hparse : Url.parse? c.url = none) : (create .default c).MeetsMalformedUrl supported :=
  ⟨hparse, [], "querystring", _, rfl, ⟨.query, rfl, rfl⟩, fun _ h => nomatch h⟩

def requested (url : String) : Client where
  plan := ⟨"en", .text "en", []⟩
  supply := ⟨none, "en", [.served "/locales"], .create (.int 1) ⟨0⟩ ⟨0⟩⟩
  view := .create "en" none (.usual "en") (some (create .default (.ofRequest url [])))
  loader := .create .usual [.text "en", .text "de"]
  ownsConnection := false

/-- A request with a URL that is well formed, and a client for one whose brackets do not close. -/
theorem detects_unless_meetsMalformedUrl_request :
    (∃ k, ((create .default (.ofRequest "http://shop/?lang=de" [])).detect ["en", "de"]
        (.text "en")).result = .ok k ∧
      (k = .text "en" ∨ ∃ language ∈ ["en", "de"], k = .text language)) ∧
    ∃ events, (requested "http://[shop/").start (.serving []) () =
      ⟨(), requested "http://[shop/", events, .error (.other BuiltIn.malformedUrl)⟩ := by
  have hgood : Url.parse? "http://shop/?lang=de" ≠ none := by decide +kernel
  have hbad : Url.parse? "http://[shop/" = none := by decide +kernel
  obtain ⟨hdetects, -⟩ := detects_unless_meetsMalformedUrl hasTextNames_default
    (DetectionContext.hasPassableStores_ofRequest "http://shop/?lang=de" [])
  obtain ⟨-, hstarts⟩ := detects_unless_meetsMalformedUrl hasTextNames_default
    (DetectionContext.hasPassableStores_ofRequest "http://[shop/" [])
  exact ⟨(hdetects _ _).2 fun hmeets => hgood hmeets.1,
    (hstarts Unit (.serving []) (requested "http://[shop/") () rfl (by decide)).1
      (meetsMalformedUrl_default _ hbad)⟩

theorem exists_detect_eq_error :
    ¬∀ (o : DetectionOptions) (c : DetectionContext), o.HasTextNames → c.HasPassableStores →
      ∀ (supported : List String) (fallback : Key),
        ∃ k, ((create o c).detect supported fallback).result = .ok k ∧
          (k = fallback ∨ ∃ language ∈ supported, k = .text language) := by
  intro h
  have hstores := DetectionContext.hasPassableStores_ofRequest "http://[shop/" []
  have hbad : Url.parse? "http://[shop/" = none := by decide +kernel
  obtain ⟨k, hok, -⟩ := h _ _ hasTextNames_default hstores ["en", "de"] (.text "en")
  rw [detect_of_meetsMalformedUrl hasTextNames_default hstores _
    (meetsMalformedUrl_default _ hbad)] at hok
  cases hok

end Detector
end Polyglot
