import Polyglot.Proofs.Outcome
import Polyglot.Proofs.Text.Parts
import Polyglot.Source.Basic

/-!
# The two local sources

One document may be had in two ways: a web server serves it, or it lies in a file of a directory.
Both ways read it as JSON and ask that it be an object. They do not agree on every document: in a
file an empty value of any kind counts as an empty bundle, an integer of too many digits passes as
a failure of its own, and the mark of an encoding in front is not read over.
-/
namespace Polyglot

/-! ## The suffix of a file -/

namespace Path

/-- Every part of the path says something. -/
def IsProper (p : Path) : Prop := ∀ part ∈ p.parts, part ≠ ""

theorem isProper_ofString (s : String) : (ofString s).IsProper := by
  intro part hpart
  have h := (List.mem_filter.1 hpart).2
  simp only [decide_eq_true_eq] at h
  exact h.1

theorem IsProper.join {p : Path} (h : p.IsProper) (s : String) : (p.join s).IsProper := by
  simp only [Path.join]
  split
  · exact isProper_ofString s
  · intro part hpart
    rcases List.mem_append.1 hpart with hfront | hback
    · exact h part hfront
    · exact isProper_ofString s part hback

/-- The last point before which something stands, and after which something stands, starts the
suffix. -/
theorem splitName_append {name : String} (hname : name ≠ "") {cs : List Char} (hne : cs ≠ [])
    (hpoint : '.' ∉ cs) :
    splitName (name ++ String.ofList ('.' :: cs)) = (name, String.ofList ('.' :: cs)) := by
  have hreverse : (name ++ String.ofList ('.' :: cs)).toList.reverse =
      cs.reverse ++ '.' :: name.toList.reverse := by
    simp
  have htail : (cs.reverse ++ '.' :: name.toList.reverse).takeWhile (· ≠ '.') = cs.reverse := by
    refine Text.takeWhile_append_stop (fun c hc => ?_) (fun c hc => ?_)
    · have hcs : c ∈ cs := List.mem_reverse.1 hc
      exact decide_eq_true fun heq => hpoint (heq ▸ hcs)
    · cases hc
      rfl
  have hfront : name.toList ≠ [] := by simpa using hname
  simp only [splitName, hreverse, htail, List.drop_left]
  simp [hne, hfront]

/-- A file that got the suffix has it, where the path is one that a text denotes. -/
theorem suffix_withName? {p q : Path} (h : p.IsProper) (cs : List Char) (hne : cs ≠ [])
    (hpoint : '.' ∉ cs) (hq : p.withName? (p.name ++ String.ofList ('.' :: cs)) = some q) :
    q.suffix = String.ofList ('.' :: cs) := by
  unfold withName? at hq
  split at hq
  · cases hq
  next hparts =>
    cases hq
    have hlast : p.parts ≠ [] := by simpa using hparts
    have hname : p.name ≠ "" := by
      rw [name, List.getLast?_eq_some_getLast hlast]
      exact h _ (List.getLast_mem hlast)
    have hsuffix : (⟨p.absolute, p.parts.dropLast ++ [p.name ++ String.ofList ('.' :: cs)]⟩ :
        Path).name = p.name ++ String.ofList ('.' :: cs) := by
      simp [name]
    rw [suffix, hsuffix, splitName_append hname hne hpoint]

end Path

/-! ## The mark of an encoding -/

namespace Json

theorem parse_of_marked {source : String} {r : List Char} (h : source.toList = '\ufeff' :: r) :
    parse source = .error .malformed := by
  have hskip : skip ('\ufeff' :: r) = '\ufeff' :: r := by simp [skip, isSpace]
  have hscalar : scalar ('\ufeff' :: r) = .error .malformed := by
    simp [scalar, keywords, number, isDigit]
  have hvalue : value (skip source.toList) = .error .malformed := by
    rw [h, hskip, value]
    · simp [hscalar]
    all_goals simp
  rw [parse, hvalue]

theorem parseMarked_of_marked {source : String} {r : List Char}
    (h : source.toList = '\ufeff' :: r) : parseMarked source = parse (String.ofList r) := by
  simp only [parseMarked, h]

theorem parseMarked_of_unmarked {source : String} (h : ∀ r, source.toList ≠ '\ufeff' :: r) :
    parseMarked source = parse source := by
  rw [parseMarked]
  split
  next r hr => exact absurd hr (h r)
  next => rfl

/-- A text that is read with a mark in front allowed for is read as usual, unless it has one. -/
theorem parseMarked_eq_of_parse_eq_ok {source : String} {v : Value} (h : parse source = .ok v) :
    parseMarked source = .ok v := by
  rw [parseMarked_of_unmarked fun r hr => ?_, h]
  rw [parse_of_marked hr] at h
  cases h

end Json

theorem Failure.isA_infrastructure {f : Failure} (h : f.kind = .infrastructure) :
    f.isA .infrastructure := by
  rw [isA, h]
  cbv

namespace Source

variable {σ : Type}

/-! ## One source at a time -/

theorem bundleOf_eq_ok_iff {origin : String} {v : Value} {b : Bundle} :
    bundleOf origin v = .ok b ↔ v = .dict b := by
  cases v <;> simp [bundleOf]

theorem isA_of_bundleOf_eq_error {origin : String} {v : Value} {f : Failure}
    (h : bundleOf origin v = .error f) : f.isA .infrastructure := by
  refine Failure.isA_infrastructure ?_
  cases v <;> cases h <;> rfl

/-- A response brings the object that its body is. -/
theorem ofResponse_eq_ok_iff {url : String} {body : Except Json.Fault Value} {l : Loaded} :
    ofResponse url ⟨200, body⟩ = .ok l ↔ body = .ok (.dict l.bundle) ∧ l.languages = none := by
  obtain ⟨bundle, languages⟩ := l
  rw [ofResponse, Outcome.bind_eq_ok_iff]
  have hbody : ∀ v, Source.body url ⟨200, body⟩ = .ok v ↔ body = .ok v := fun v =>
    Outcome.mapError_eq_ok_iff
  constructor
  · rintro ⟨v, hv, h⟩
    obtain ⟨b, hb, h⟩ := Outcome.bind_eq_ok_iff.1 h
    cases h
    obtain rfl := bundleOf_eq_ok_iff.1 hb
    exact ⟨(hbody _).1 hv, rfl⟩
  · rintro ⟨hv, rfl⟩
    exact ⟨_, (hbody _).2 hv, rfl⟩

/-- Whatever else is wrong with a response is a failure of the infrastructure. -/
theorem isA_of_ofResponse_eq_error {url : String} {r : Response} {f : Failure}
    (h : ofResponse url r = .error f) : f.isA .infrastructure := by
  rcases Outcome.bind_eq_error_iff.1 h with hbody | ⟨v, -, h⟩
  · rw [body] at hbody
    split at hbody
    · cases hbody
      exact Failure.isA_infrastructure rfl
    · obtain ⟨e, -, rfl⟩ := Outcome.mapError_eq_error_iff.1 hbody
      exact Failure.isA_infrastructure rfl
  · rcases Outcome.bind_eq_error_iff.1 h with hbundle | ⟨b, -, h⟩
    · exact isA_of_bundleOf_eq_error hbundle
    · cases h

/-- A JSON file brings the object that it holds, and for an empty value of any kind the empty
bundle. -/
theorem ofFile_eq_ok_iff {path : Path} (hpath : path.suffix = ".json") {text : String}
    {l : Loaded} :
    ofFile path text = .ok l ↔
      (∃ v, Json.parse text = .ok v ∧ (v = .dict l.bundle ∨ v.truthy = false ∧ l.bundle = [])) ∧
        l.languages = none := by
  obtain ⟨bundle, languages⟩ := l
  rw [ofFile, Outcome.bind_eq_ok_iff, fileValue, if_pos hpath]
  have hread : ∀ v, (Json.parse text).mapError (jsonFailure path) = .ok v ↔
      Json.parse text = .ok v := fun v => Outcome.mapError_eq_ok_iff
  constructor
  · rintro ⟨v, hv, h⟩
    obtain ⟨b, hb, h⟩ := Outcome.bind_eq_ok_iff.1 h
    cases h
    refine ⟨⟨v, (hread v).1 hv, ?_⟩, rfl⟩
    rw [bundleOf_eq_ok_iff] at hb
    cases htruthy : v.truthy with
    | true => exact .inl (by rwa [htruthy, if_pos rfl] at hb)
    | false =>
      rw [htruthy, if_neg Bool.false_ne_true] at hb
      cases hb
      exact .inr ⟨rfl, rfl⟩
  · rintro ⟨⟨v, hv, hbundle⟩, rfl⟩
    refine ⟨v, (hread v).2 hv, Outcome.bind_eq_ok_iff.2 ⟨bundle, bundleOf_eq_ok_iff.2 ?_, rfl⟩⟩
    rcases hbundle with rfl | ⟨hempty, rfl⟩
    · cases bundle <;> rfl
    · rw [hempty, if_neg Bool.false_ne_true]

/-- What else is wrong with a JSON file is a failure of the infrastructure, except for an integer
of too many digits. -/
theorem isA_of_ofFile_eq_error {path : Path} (hpath : path.suffix = ".json") {text : String}
    {f : Failure} (h : ofFile path text = .error f) :
    f.isA .infrastructure ↔ ∀ n, Json.parse text ≠ .error (.tooLong n) := by
  rw [ofFile, fileValue, if_pos hpath] at h
  rcases Outcome.bind_eq_error_iff.1 h with hread | ⟨v, hv, h⟩
  · obtain ⟨e, he, rfl⟩ := Outcome.mapError_eq_error_iff.1 hread
    cases e with
    | malformed =>
      refine iff_of_true (Failure.isA_infrastructure rfl) fun n hn => ?_
      rw [he] at hn
      cases hn
    | tooLong n =>
      have hkind : FailureKind.badValue.isA .infrastructure = false := by cbv
      exact iff_of_false (fun hf => Bool.false_ne_true (hkind.symm.trans hf))
        fun hnone => hnone n he
  · rcases Outcome.bind_eq_error_iff.1 h with hbundle | ⟨b, -, h⟩
    · refine iff_of_true (isA_of_bundleOf_eq_error hbundle) fun n hn => ?_
      rw [Outcome.mapError_eq_ok_iff.1 hv] at hn
      cases hn
    · cases h

/-- The JSON file of a bundle, which is tried before all others. -/
def jsonFile? (directory : Path) (language : Key) (space : Option Key) : Option Path :=
  (bundlePath directory language space).toOption.bind fun stem =>
    stem.withName? (stem.name ++ ".json")

theorem jsonFile?_eq_some_iff {directory p : Path} {language : Key} {space : Option Key} :
    jsonFile? directory language space = some p ↔
      ∃ stem, bundlePath directory language space = .ok stem ∧
        stem.withName? (stem.name ++ ".json") = some p := by
  unfold jsonFile?
  cases bundlePath directory language space <;> simp [Except.toOption]

theorem isProper_below {directory p : Path} (h : directory.IsProper) {part : Key}
    (hp : below directory part = .ok p) : p.IsProper := by
  unfold below at hp
  split at hp
  · cases hp
    exact h.join _
  · cases hp

theorem isProper_bundlePath {directory stem : Path} (h : directory.IsProper) {language : Key}
    {space : Option Key} (hstem : bundlePath directory language space = .ok stem) :
    stem.IsProper := by
  obtain ⟨path, hpath, hstem⟩ := Outcome.bind_eq_ok_iff.1 hstem
  have hproper := isProper_below h hpath
  split at hstem
  · cases hstem
    exact hproper
  · exact isProper_below hproper hstem

theorem ofDirectory_eq_ofFile {file : String → Except Failure (Option String)} {directory p : Path}
    {language : Key} {space : Option Key} (hp : jsonFile? directory language space = some p)
    {text : String} (hfile : file p.text = .ok (some text)) :
    ofDirectory file directory language space = ofFile p text := by
  obtain ⟨stem, hpath, hname⟩ := jsonFile?_eq_some_iff.1 hp
  have hfind : findFile file stem suffixes = .ok (some (p, text)) := by
    simp only [suffixes, findFile, hname, hfile]
  rw [ofDirectory, hpath]
  show (findFile file stem suffixes >>= _) = _
  rw [hfind]
  rfl

theorem suffix_jsonFile? {root : String} {language : Key} {space : Option Key} {p : Path}
    (hp : jsonFile? (.ofString root) language space = some p) : p.suffix = ".json" := by
  obtain ⟨stem, hstem, hname⟩ := jsonFile?_eq_some_iff.1 hp
  have hproper := isProper_bundlePath (Path.isProper_ofString root) hstem
  exact Path.suffix_withName? hproper "json".toList (by decide) (by decide) hname

/-! ## Both sources -/

/-- Two fetches come to the same: to one bundle, or to a failure of the infrastructure each. -/
inductive Agree : Except Failure Loaded → Except Failure Loaded → Prop
  | bundle (l : Loaded) : Agree (.ok l) (.ok l)
  | failure {f g : Failure} (hf : f.isA .infrastructure) (hg : g.isA .infrastructure) :
      Agree (.error f) (.error g)

theorem Agree.isA {x : Except Failure Loaded} {g : Failure} (h : Agree x (.error g)) :
    g.isA .infrastructure := by
  cases h with
  | failure _ hg => exact hg

/-- The documents of which a web server and a file make different things. -/
inductive Divides (text : String) : Prop
  /-- an empty value that is no object -/
  | hollow {v : Value} (hv : Json.parse text = .ok v) (hempty : v.truthy = false)
      (hdict : ∀ es, v ≠ .dict es)
  /-- a document whose reading stops at an integer of too many digits -/
  | overlong {n : Nat} (hn : Json.parse text = .error (.tooLong n))
  /-- an object behind the mark of an encoding -/
  | marked {r : List Char} {es : Bundle} (hr : text.toList = '\ufeff' :: r)
      (hes : Json.parse (String.ofList r) = .ok (.dict es))

/-- What a web server and a file make of a document that does not divide them. -/
theorem agree_of_not_divides {url text : String} {path : Path} (hpath : path.suffix = ".json")
    (h : ¬ Divides text) :
    Agree (ofResponse url ⟨200, Json.parseMarked text⟩) (ofFile path text) := by
  cases hserved : ofResponse url ⟨200, Json.parseMarked text⟩ with
  | ok l =>
    -- An object that the server gives has no mark in front, so that the file is read alike.
    obtain ⟨hread, hnone⟩ := ofResponse_eq_ok_iff.1 hserved
    have hunmarked : ∀ r, text.toList ≠ '\ufeff' :: r := fun r hr =>
      h (.marked hr (Json.parseMarked_of_marked hr ▸ hread))
    rw [Json.parseMarked_of_unmarked hunmarked] at hread
    rw [(ofFile_eq_ok_iff hpath).2 ⟨⟨_, hread, .inl rfl⟩, hnone⟩]
    exact .bundle l
  | error f =>
    -- The file holds no object then, and what else it could bring is an empty value.
    have hobject : ∀ es, Json.parse text ≠ .ok (.dict es) := fun es hes => by
      rw [ofResponse_eq_ok_iff (l := ⟨es, none⟩) |>.2
        ⟨Json.parseMarked_eq_of_parse_eq_ok hes, rfl⟩] at hserved
      cases hserved
    cases hstored : ofFile path text with
    | ok l =>
      obtain ⟨⟨v, hv, hbundle | ⟨hempty, -⟩⟩, -⟩ := (ofFile_eq_ok_iff hpath).1 hstored
      · exact absurd (hbundle ▸ hv) (hobject _)
      · exact absurd (.hollow hv hempty fun es hes => hobject es (hes ▸ hv)) h
    | error g =>
      exact .failure (isA_of_ofResponse_eq_error hserved)
        ((isA_of_ofFile_eq_error hpath hstored).2 fun n hn => h (.overlong hn))

/-- On a document that divides them, a web server and a file do not come to the same. -/
theorem not_agree_of_divides {url text : String} {path : Path} (hpath : path.suffix = ".json")
    (h : Divides text) :
    ¬ Agree (ofResponse url ⟨200, Json.parseMarked text⟩) (ofFile path text) := by
  intro hagree
  cases h with
  | @hollow v hv hempty hdict =>
    have hstored : ofFile path text = .ok ⟨[], none⟩ :=
      (ofFile_eq_ok_iff hpath).2 ⟨⟨v, hv, .inr ⟨hempty, rfl⟩⟩, rfl⟩
    cases hserved : ofResponse url ⟨200, Json.parseMarked text⟩ with
    | ok l =>
      have hread := (ofResponse_eq_ok_iff.1 hserved).1
      rw [Json.parseMarked_eq_of_parse_eq_ok hv] at hread
      exact hdict _ (Except.ok.inj hread)
    | error f =>
      rw [hserved, hstored] at hagree
      cases hagree
  | @overlong n hn =>
    cases hstored : ofFile path text with
    | ok l =>
      obtain ⟨⟨v, hv, -⟩, -⟩ := (ofFile_eq_ok_iff hpath).1 hstored
      rw [hn] at hv
      cases hv
    | error g =>
      exact (isA_of_ofFile_eq_error hpath hstored).1 (hstored ▸ hagree).isA n hn
  | @marked r es hr hes =>
    have hserved : ofResponse url ⟨200, Json.parseMarked text⟩ = .ok ⟨es, none⟩ :=
      ofResponse_eq_ok_iff.2 ⟨Json.parseMarked_of_marked hr ▸ hes, rfl⟩
    cases hstored : ofFile path text with
    | ok l =>
      obtain ⟨⟨v, hv, -⟩, -⟩ := (ofFile_eq_ok_iff hpath).1 hstored
      rw [Json.parse_of_marked hr] at hv
      cases hv
    | error g =>
      rw [hserved, hstored] at hagree
      cases hagree

/-- A document that is served at the address of a bundle and lies in the bundle's JSON file. -/
structure IsOffered (outside : Outside σ) (world : σ) (base root : String) (language : Key)
    (space : Option Key) (text : String) : Prop where
  served : (outside.get world (address base language space) none).2 =
    .ok ⟨200, Json.parseMarked text⟩
  stored : ∃ p, jsonFile? (.ofString root) language space = some p ∧
    outside.file world p.text = .ok (some text)

namespace IsOffered

variable {outside : Outside σ} {world : σ} {base root : String} {language : Key}
  {space : Option Key} {text : String}

theorem fetch_served (h : IsOffered outside world base root language space text) :
    (fetch outside (.served base) language space world).2 =
      ofResponse (address base language space) ⟨200, Json.parseMarked text⟩ := by
  show (outside.get world (address base language space) none).2.bind _ = _
  rw [h.served]
  rfl

theorem fetch_directory (h : IsOffered outside world base root language space text) :
    ∃ p : Path, p.suffix = ".json" ∧
      (fetch outside (.directory (.ofString root)) language space world).2 = ofFile p text := by
  obtain ⟨p, hp, hfile⟩ := h.stored
  exact ⟨p, suffix_jsonFile? hp, ofDirectory_eq_ofFile hp hfile⟩

end IsOffered

/-- A document at one address and in one file, and nothing else. -/
def offer (url path text : String) : Outside Unit where
  get world address _ :=
    (world, if address = url then .ok ⟨200, Json.parseMarked text⟩
      else .error (.plain .transport "No route"))
  file _ name := .ok (if name = path then some text else none)
  pause world _ := world
  draw world := (world, .ofRatio false 1 2)
  close world := world
  now world := (world, .int 0)

theorem isOffered_offer {base root url : String} {language : Key} {space : Option Key} {p : Path}
    (hurl : address base language space = url)
    (hp : jsonFile? (.ofString root) language space = some p) (text : String) :
    IsOffered (offer url p.text text) () base root language space text where
  served := by simp [offer, hurl]
  stored := ⟨p, hp, by simp [offer]⟩

/-- Of one document, a web server and a file make the same thing just where it is not one that
divides them. The server gives objects alone, the file gives the empty bundle for every empty value
too. -/
theorem agree_fetch_iff {outside : Outside σ} {world : σ} {base root : String} {language : Key}
    {space : Option Key} {text : String}
    (h : IsOffered outside world base root language space text) :
    let served := (fetch outside (.served base) language space world).2
    let stored := (fetch outside (.directory (.ofString root)) language space world).2
    (Agree served stored ↔ ¬ Divides text) ∧
    (∀ l, served = .ok l ↔ Json.parseMarked text = .ok (.dict l.bundle) ∧ l.languages = none) ∧
    (∀ l, stored = .ok l ↔
      (∃ v, Json.parse text = .ok v ∧ (v = .dict l.bundle ∨ v.truthy = false ∧ l.bundle = [])) ∧
        l.languages = none) := by
  intro served stored
  obtain ⟨p, hpath, hstored⟩ := h.fetch_directory
  rw [show served = _ from h.fetch_served, show stored = _ from hstored]
  refine ⟨⟨fun hagree hdivides => not_agree_of_divides hpath hdivides hagree,
    agree_of_not_divides hpath⟩, fun l => ofResponse_eq_ok_iff, fun l => ofFile_eq_ok_iff hpath⟩

/-- The offer of a document as the bundle of English. -/
def englishOffer (text : String) : Outside Unit :=
  offer "https://cdn.test/locales/en.json" "locales/en.json" text

theorem isOffered_englishOffer (text : String) :
    IsOffered (englishOffer text) () "https://cdn.test/locales" "locales" (.text "en") none text :=
  have hp : jsonFile? (.ofString "locales") (.text "en") none =
      some ⟨false, ["locales", "en.json"]⟩ := rfl
  have haddress : address "https://cdn.test/locales" (.text "en") none =
      "https://cdn.test/locales/en.json" := rfl
  isOffered_offer haddress hp text

/-- An empty object is an empty bundle for both. -/
theorem agree_fetch_iff_emptyObject :
    let served := fetch (englishOffer "{}") (.served "https://cdn.test/locales") (.text "en") none ()
    let stored := fetch (englishOffer "{}") (.directory (.ofString "locales")) (.text "en") none ()
    IsOffered (englishOffer "{}") () "https://cdn.test/locales" "locales" (.text "en") none "{}" ∧
      ¬ Divides "{}" ∧ served.2 = .ok ⟨[], none⟩ ∧ stored.2 = .ok ⟨[], none⟩ := by
  intro served stored
  have hparse : Json.parse "{}" = .ok (.dict []) := by cbv
  obtain ⟨hagree, hserved, hstored⟩ := agree_fetch_iff (isOffered_englishOffer "{}")
  have hserved : served.2 = .ok ⟨[], none⟩ :=
    (hserved _).2 ⟨Json.parseMarked_eq_of_parse_eq_ok hparse, rfl⟩
  have hstored : stored.2 = .ok ⟨[], none⟩ := (hstored _).2 ⟨⟨_, hparse, .inl rfl⟩, rfl⟩
  refine ⟨isOffered_englishOffer "{}", hagree.1 ?_, hserved, hstored⟩
  show Agree served.2 stored.2
  rw [hserved, hstored]
  exact .bundle _

/-- An empty list is a failure behind a web server, and an empty bundle in a file. -/
theorem not_agree_emptyList :
    let served := fetch (englishOffer "[]") (.served "https://cdn.test/locales") (.text "en") none ()
    let stored := fetch (englishOffer "[]") (.directory (.ofString "locales")) (.text "en") none ()
    IsOffered (englishOffer "[]") () "https://cdn.test/locales" "locales" (.text "en") none "[]" ∧
      Json.parse "[]" = .ok (.list []) ∧ stored.2 = .ok ⟨[], none⟩ ∧ ¬ Agree served.2 stored.2 := by
  intro served stored
  have h := isOffered_englishOffer "[]"
  have hparse : Json.parse "[]" = .ok (.list []) := by cbv
  obtain ⟨p, hpath, hstored⟩ := h.fetch_directory
  have hempty : ofFile p "[]" = .ok ⟨[], none⟩ :=
    (ofFile_eq_ok_iff hpath).2 ⟨⟨_, hparse, .inr ⟨rfl, rfl⟩⟩, rfl⟩
  refine ⟨h, hparse, hstored.trans hempty, ?_⟩
  rw [show served.2 = _ from h.fetch_served, show stored.2 = _ from hstored]
  exact not_agree_of_divides hpath (.hollow hparse rfl (by simp))

end Source
end Polyglot
