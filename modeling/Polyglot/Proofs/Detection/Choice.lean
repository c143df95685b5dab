import Polyglot.Detection.Run
import Polyglot.Proofs.Detection.MalformedUrl
import Polyglot.Proofs.Number.Order

/-!
# Stored choices

A choice that was stored is found again by every strategy that stores choices and whose store can
be used, and by none of them after it was removed. A store that fails disturbs no other one. What
the stores hold after a run was chosen in it: it was supported then and not excluded.
-/
namespace Polyglot

/-! ## Stores -/

/-- Whether cookies are set to last: their age is above zero. -/
def DetectionOptions.HasLastingCookie (o : DetectionOptions) : Prop :=
  SettingsFault.isAtMostZero o.cookieMaxAge = .ok false

theorem DetectionOptions.hasLastingCookie_int_iff {o : DetectionOptions} {n : Int}
    (h : o.cookieMaxAge = .int n) : o.HasLastingCookie ↔ 0 < n := by
  rw [HasLastingCookie, h]
  simp [SettingsFault.isAtMostZero, Value.number?, ← Bool.not_eq_true, Number.le_int_iff]

namespace KeyValueStore

variable {s s' : KeyValueStore} {key : String} {text : Option String}

def write (s : KeyValueStore) (key : Value) : Option String → Except Failure KeyValueStore
  | some v => s.set key v
  | none => s.remove key

/-- The texts of a storage area. -/
def texts : KeyValueStore → List String
  | items es => es.map (·.2)
  | blocked _ => []

theorem write_items (es : List (Key × String)) (key : String) (text : Option String) :
    ∃ es', (items es).write (.text key) text = .ok (items es') := by
  cases text with
  | none => exact ⟨_, rfl⟩
  | some v => exact ⟨_, rfl⟩

theorem write_eq_ok (h : s.write (.text key) text = .ok s') :
    (∃ es es', s = items es ∧ s' = items es') ∧ s'.get (.text key) = .ok text := by
  cases s with
  | blocked g => cases text <;> cases h
  | items es =>
    cases text with
    | none =>
      cases h
      exact ⟨⟨es, _, rfl, rfl⟩, congrArg Except.ok (Entries.get?_erase_self es (Key.text key))⟩
    | some v =>
      cases h
      exact ⟨⟨es, _, rfl, rfl⟩, congrArg Except.ok (Entries.get?_put_self es (Key.text key) v)⟩

theorem mem_texts_write {key : Value} (h : s.write key text = .ok s') {v : String}
    (hv : v ∈ s'.texts) : text = some v ∨ v ∈ s.texts := by
  cases s with
  | blocked g => cases text <;> cases h
  | items es =>
    cases text with
    | none =>
      obtain ⟨k, -, rfl⟩ := Outcome.map_eq_ok_iff.1 h
      obtain ⟨e, he, rfl⟩ := List.mem_map.1 hv
      exact .inr (List.mem_map_of_mem (List.mem_filter.1 he).1)
    | some w =>
      obtain ⟨k, -, rfl⟩ := Outcome.map_eq_ok_iff.1 h
      obtain ⟨e, he, rfl⟩ := List.mem_map.1 hv
      rcases Entries.mem_put he with rfl | hold
      · exact .inl rfl
      · exact .inr (List.mem_map_of_mem hold)

end KeyValueStore

namespace CookieJar

variable {o : DetectionOptions} {c c' : CookieJar} {text : Option String}

/-- Sets the cookie of the detector to a text, or removes it. -/
def write (c : CookieJar) (o : DetectionOptions) : Option String → Except Failure CookieJar
  | some v => c.set o.cookieName v o.cookieMaxAge o.domain
  | none => c.set o.cookieName "" (.int 0) o.domain

def values : CookieJar → List String
  | .jar es _ => es.map (·.2)
  | .blocked _ => []

/-- The headers of the cookies that were set. -/
def headers : CookieJar → List String
  | .jar _ written => written
  | .blocked _ => []

/-- The header of a text, or the one that removes the cookie. -/
def headerOf (o : DetectionOptions) : Option String → String
  | some v => header o.cookieName v o.cookieMaxAge o.domain
  | none => header o.cookieName "" (.int 0) o.domain

theorem set_jar {es : List (Key × String)} {written : List String} {name value : String}
    {maxAge : Value} {domain : Option String} {isSpent : Bool}
    (h : SettingsFault.isAtMostZero maxAge = .ok isSpent) :
    (jar es written).set (.text name) value maxAge domain =
      .ok (.jar (if isSpent then Entries.erase es name else Entries.put es name value)
        (written ++ [header (.text name) value maxAge domain])) := by
  simp only [set, h]
  rfl

/-- Setting a cookie notes its header and changes that cookie alone. -/
theorem write_eq_ok (h : c.write o text = .ok c') :
    ∃ es written key es', c = .jar es written ∧
      c' = .jar es' (written ++ [headerOf o text]) ∧
      (es' = Entries.erase es key ∨ ∃ v, text = some v ∧ es' = Entries.put es key v) := by
  cases c with
  | blocked g => cases text <;> cases h
  | jar es written =>
    cases text with
    | none =>
      obtain ⟨isSpent, hspent, h⟩ := Outcome.bind_eq_ok_iff.1 h
      obtain ⟨key, -, h⟩ := Outcome.bind_eq_ok_iff.1 h
      obtain rfl : true = isSpent := Except.ok.inj hspent
      cases h
      exact ⟨es, written, key, _, rfl, rfl, .inl rfl⟩
    | some v =>
      obtain ⟨isSpent, -, h⟩ := Outcome.bind_eq_ok_iff.1 h
      obtain ⟨key, -, h⟩ := Outcome.bind_eq_ok_iff.1 h
      cases h
      refine ⟨es, written, key, _, rfl, rfl, ?_⟩
      cases isSpent with
      | true => exact .inl rfl
      | false => exact .inr ⟨v, rfl, rfl⟩

theorem write_jar (hage : o.HasLastingCookie) {name : String} (hname : o.cookieName = .text name)
    (es : List (Key × String)) (written : List String) (text : Option String) :
    ∃ es', (jar es written).write o text = .ok (.jar es' (written ++ [headerOf o text])) ∧
      Entries.get? es' (Key.text name) = text := by
  cases text with
  | none =>
    refine ⟨Entries.erase es name, ?_, Entries.get?_erase_self es _⟩
    rw [write, headerOf, hname]
    exact set_jar (show SettingsFault.isAtMostZero (.int 0) = .ok true from rfl)
  | some v =>
    refine ⟨Entries.put es name v, ?_, Entries.get?_put_self es _ v⟩
    rw [write, headerOf, hname]
    exact set_jar hage

end CookieJar

/-! ## Strategies -/

namespace BuiltIn

variable {kind other : BuiltIn} {o : DetectionOptions} {c c' : DetectionContext}
  {text : Option String} {f : Failure}

/-- Whether a strategy has a store that exists and can be used. -/
def HasStore (kind : BuiltIn) (c : DetectionContext) : Prop :=
  match kind with
  | cookie => ∃ es written, c.cookies = .jar es written
  | localStorage => ∃ es, c.localStorage = some (.items es)
  | sessionStorage => ∃ es, c.sessionStorage = some (.items es)
  | _ => False

/-- Stores a choice, or removes the stored one when there is none. -/
def write (kind : BuiltIn) (o : DetectionOptions) (text : Option String) (c : DetectionContext) :
    Except Failure DetectionContext :=
  match text with
  | some l => kind.remember o l c
  | none => kind.forget o c

/-- Each strategy changes its own store and nothing else. -/
theorem write_eq (kind : BuiltIn) (o : DetectionOptions) (text : Option String)
    (c : DetectionContext) :
    kind.write o text c =
      match kind with
      | cookie => (c.cookies.write o text).map fun jar => { c with cookies := jar }
      | localStorage =>
          (change c.localStorage fun s => s.write o.storageKey text).map fun s =>
            { c with localStorage := s }
      | sessionStorage =>
          (change c.sessionStorage fun s => s.write o.storageKey text).map fun s =>
            { c with sessionStorage := s }
      | _ => .ok c := by
  cases text <;> cases kind <;> rfl

theorem exists_items_change {store store' : Option KeyValueStore} {key : String}
    (h : change store (fun s => s.write (.text key) text) = .ok store')
    (hstore : ∃ es, store = some (.items es)) : ∃ es, store' = some (.items es) := by
  obtain ⟨es, rfl⟩ := hstore
  obtain ⟨s', hs', rfl⟩ := Outcome.map_eq_ok_iff.1 h
  obtain ⟨⟨-, es', -, rfl⟩, -⟩ := KeyValueStore.write_eq_ok hs'
  exact ⟨es', rfl⟩

theorem exists_change {store : Option KeyValueStore} (hstore : ∃ es, store = some (.items es))
    (key : String) (text : Option String) :
    ∃ store', change store (fun s => s.write (.text key) text) = .ok store' ∧
      stored store' (.text key) = .ok text := by
  obtain ⟨es, rfl⟩ := hstore
  obtain ⟨es', hwrite⟩ := KeyValueStore.write_items es key text
  refine ⟨some (.items es'), ?_, (KeyValueStore.write_eq_ok hwrite).2⟩
  rw [change, hwrite]
  rfl

theorem change_ne_blocked {store store' : Option KeyValueStore} {key : String}
    (h : change store (fun s => s.write (.text key) text) = .ok store') :
    store' ≠ some (.blocked f) := by
  cases store with
  | none =>
    cases h
    simp
  | some s =>
    obtain ⟨s', hs', rfl⟩ := Outcome.map_eq_ok_iff.1 h
    obtain ⟨⟨-, es', -, rfl⟩, -⟩ := KeyValueStore.write_eq_ok hs'
    simp

theorem change_eq_error {store : Option KeyValueStore} {key : String}
    (h : change store (fun s => s.write (.text key) text) = .error f) :
    store = some (.blocked f) := by
  cases store with
  | none => cases h
  | some s =>
    cases s with
    | blocked g =>
      cases text <;> cases h <;> rfl
    | items es =>
      obtain ⟨es', hes'⟩ := KeyValueStore.write_items es key text
      rw [change, hes'] at h
      cases h

/-- A strategy whose store can be used stores a choice and looks it up. -/
theorem exists_write (ho : o.HasTextNames) (hage : o.HasLastingCookie) (htext : text ≠ some "")
    (hstore : kind.HasStore c) :
    ∃ c', kind.write o text c = .ok c' ∧ ∀ supported, kind.lookup o supported c' = .ok text := by
  obtain ⟨⟨name, hname⟩, key, hkey⟩ := ho
  rw [write_eq]
  cases kind with
  | cookie =>
    obtain ⟨es, written, hjar⟩ := hstore
    obtain ⟨es', hwrite, hget⟩ := CookieJar.write_jar hage hname es written text
    refine ⟨_, by simp only [hjar, hwrite]; rfl, fun supported => ?_⟩
    have hfilter : text.filter (· ≠ "") = text := by
      cases text with
      | none => rfl
      | some v => simpa using htext
    rw [lookup, hname]
    exact congrArg Except.ok ((congrArg (Option.filter _) hget).trans hfilter)
  | localStorage =>
    obtain ⟨store, hchange, hstored⟩ := exists_change hstore key text
    refine ⟨_, by simp only [hkey, hchange]; rfl, fun supported => ?_⟩
    rw [lookup, hkey]
    exact hstored
  | sessionStorage =>
    obtain ⟨store, hchange, hstored⟩ := exists_change hstore key text
    refine ⟨_, by simp only [hkey, hchange]; rfl, fun supported => ?_⟩
    rw [lookup, hkey]
    exact hstored
  | _ => exact hstore.elim

/-- What other strategies look up is not disturbed. -/
theorem lookup_write_ne (h : kind.write o text c = .ok c') (hne : other ≠ kind)
    (supported : List String) : other.lookup o supported c' = other.lookup o supported c := by
  rw [write_eq] at h
  cases kind with
  | cookie =>
    obtain ⟨jar, -, rfl⟩ := Outcome.map_eq_ok_iff.1 h
    cases other <;> first | exact absurd rfl hne | simp only [lookup, inUrl]
  | localStorage =>
    obtain ⟨store, -, rfl⟩ := Outcome.map_eq_ok_iff.1 h
    cases other <;> first | exact absurd rfl hne | simp only [lookup, inUrl]
  | sessionStorage =>
    obtain ⟨store, -, rfl⟩ := Outcome.map_eq_ok_iff.1 h
    cases other <;> first | exact absurd rfl hne | simp only [lookup, inUrl]
  | _ =>
    cases h
    rfl

/-- A store that can be used can be used again. -/
theorem HasStore.write (hstore : other.HasStore c) (ho : o.HasTextNames)
    (h : kind.write o text c = .ok c') : other.HasStore c' := by
  obtain ⟨-, key, hkey⟩ := ho
  rw [write_eq] at h
  cases kind with
  | cookie =>
    obtain ⟨jar, hjar, rfl⟩ := Outcome.map_eq_ok_iff.1 h
    obtain ⟨es, written, k, es', -, rfl, -⟩ := CookieJar.write_eq_ok hjar
    cases other <;> first | exact hstore | exact ⟨_, _, rfl⟩
  | localStorage =>
    obtain ⟨store, hchange, rfl⟩ := Outcome.map_eq_ok_iff.1 h
    rw [hkey] at hchange
    cases other <;> first | exact hstore | exact exists_items_change hchange hstore
  | sessionStorage =>
    obtain ⟨store, hchange, rfl⟩ := Outcome.map_eq_ok_iff.1 h
    rw [hkey] at hchange
    cases other <;> first | exact hstore | exact exists_items_change hchange hstore
  | _ =>
    cases h
    exact hstore

/-- Storing fails only with the failure of a blocked store. -/
theorem isStoreFailure_of_write (ho : o.HasTextNames) (hage : o.HasLastingCookie)
    (hc : c.HasPassableStores) (h : kind.write o text c = .error f) :
    Detector.isStoreFailure f = true := by
  obtain ⟨⟨name, hname⟩, key, hkey⟩ := ho
  rw [write_eq] at h
  cases kind with
  | cookie =>
    have hjar := Outcome.map_eq_error_iff.1 h
    cases hcookies : c.cookies with
    | blocked g =>
      rw [hcookies] at hjar
      have hg : g = f := by cases text <;> cases hjar <;> rfl
      exact hc.cookies f (hg ▸ hcookies)
    | jar es written =>
      obtain ⟨es', hwrite, -⟩ := CookieJar.write_jar hage hname es written text
      rw [hcookies, hwrite] at hjar
      cases hjar
  | localStorage =>
    have hchange := Outcome.map_eq_error_iff.1 h
    rw [hkey] at hchange
    exact hc.localStorage f (change_eq_error hchange)
  | sessionStorage =>
    have hchange := Outcome.map_eq_error_iff.1 h
    rw [hkey] at hchange
    exact hc.sessionStorage f (change_eq_error hchange)
  | _ => cases h

/-- Stores that can be passed over stay so. -/
theorem hasPassableStores_write (ho : o.HasTextNames) (hc : c.HasPassableStores)
    (h : kind.write o text c = .ok c') : c'.HasPassableStores := by
  obtain ⟨-, key, hkey⟩ := ho
  rw [write_eq] at h
  cases kind with
  | cookie =>
    obtain ⟨jar, hjar, rfl⟩ := Outcome.map_eq_ok_iff.1 h
    obtain ⟨es, written, k, es', -, rfl, -⟩ := CookieJar.write_eq_ok hjar
    exact { hc with cookies := fun f hf => nomatch hf }
  | localStorage =>
    obtain ⟨store, hchange, rfl⟩ := Outcome.map_eq_ok_iff.1 h
    rw [hkey] at hchange
    exact { hc with localStorage := fun f hf => absurd hf (change_ne_blocked hchange) }
  | sessionStorage =>
    obtain ⟨store, hchange, rfl⟩ := Outcome.map_eq_ok_iff.1 h
    rw [hkey] at hchange
    exact { hc with sessionStorage := fun f hf => absurd hf (change_ne_blocked hchange) }
  | _ =>
    cases h
    exact hc

end BuiltIn

theorem Strategy.store_eq_ok {s s' : Strategy} {o : DetectionOptions} {text : Option String}
    {c c' : DetectionContext} (h : s.store o text c = .ok (s', c')) :
    (∃ kind : BuiltIn, s = .builtIn kind ∧ s' = .builtIn kind ∧ kind.write o text c = .ok c') ∨
      ∃ t t' : CustomStrategy, s = .custom t ∧ s' = .custom t' ∧ t'.storing = t.storing ∧ c' = c := by
  cases s with
  | builtIn kind =>
    have hwrite : (kind.write o text c).map (Prod.mk (.builtIn kind)) = .ok (s', c') := h
    obtain ⟨c'', hc'', heq⟩ := Outcome.map_eq_ok_iff.1 hwrite
    cases heq
    exact .inl ⟨kind, rfl, rfl, hc''⟩
  | custom t =>
    simp only [store] at h
    split at h
    · cases h
    · cases h
      exact .inr ⟨t, _, rfl, rfl, rfl, rfl⟩
    · cases h
      exact .inr ⟨t, _, rfl, rfl, rfl, rfl⟩

/-! ## What stores hold -/

namespace DetectionContext

variable {o : DetectionOptions} {good : String → Prop} {c c' : DetectionContext}

/-- Whether nothing is stored and no header was written. -/
structure IsBlank (c : DetectionContext) : Prop where
  cookies : c.cookies.values = []
  headers : c.cookies.headers = []
  localStorage : ∀ s ∈ c.localStorage, s.texts = []
  sessionStorage : ∀ s ∈ c.sessionStorage, s.texts = []

/-- Whether the stores hold only texts of some kind, and every header that was written sets the
cookie to such a text or removes it. -/
structure HoldsOnly (o : DetectionOptions) (good : String → Prop) (c : DetectionContext) :
    Prop where
  cookies : ∀ v ∈ c.cookies.values, good v
  headers : ∀ h ∈ c.cookies.headers, ∃ text, h = CookieJar.headerOf o text ∧ ∀ v ∈ text, good v
  localStorage : ∀ s ∈ c.localStorage, ∀ v ∈ s.texts, good v
  sessionStorage : ∀ s ∈ c.sessionStorage, ∀ v ∈ s.texts, good v

theorem IsBlank.holdsOnly (h : c.IsBlank) (o : DetectionOptions) (good : String → Prop) :
    c.HoldsOnly o good where
  cookies := by simp [h.cookies]
  headers := by simp [h.headers]
  localStorage := fun s hs => by simp [h.localStorage s hs]
  sessionStorage := fun s hs => by simp [h.sessionStorage s hs]

variable {text : Option String}

theorem holdsOnly_change {store store' : Option KeyValueStore} {key : Value}
    (h : ∀ s ∈ store, ∀ v ∈ s.texts, good v) (htext : ∀ v ∈ text, good v)
    (hchange : BuiltIn.change store (fun s => s.write key text) = .ok store') :
    ∀ s ∈ store', ∀ v ∈ s.texts, good v := by
  cases store with
  | none =>
    cases hchange
    exact h
  | some s =>
    obtain ⟨s', hs', rfl⟩ := Outcome.map_eq_ok_iff.1 hchange
    rintro t ⟨⟩ v hv
    rcases KeyValueStore.mem_texts_write hs' hv with rfl | hv
    · exact htext v rfl
    · exact h s rfl v hv

/-- Storing a text of the kind keeps the stores so. -/
theorem HoldsOnly.write (h : c.HoldsOnly o good) {kind : BuiltIn} (htext : ∀ v ∈ text, good v)
    (hwrite : kind.write o text c = .ok c') : c'.HoldsOnly o good := by
  rw [BuiltIn.write_eq] at hwrite
  cases kind with
  | cookie =>
    obtain ⟨jar, hjar, rfl⟩ := Outcome.map_eq_ok_iff.1 hwrite
    obtain ⟨es, written, key, es', hes, rfl, hes'⟩ := CookieJar.write_eq_ok hjar
    have hold : ∀ e ∈ es, good e.2 := fun e he => h.cookies e.2 (by
      rw [hes]
      exact List.mem_map_of_mem he)
    refine { h with cookies := ?_, headers := ?_ }
    · intro v hv
      obtain ⟨e, he, rfl⟩ := List.mem_map.1 hv
      rcases hes' with rfl | ⟨w, rfl, rfl⟩
      · exact hold e (List.mem_filter.1 he).1
      · rcases Entries.mem_put he with rfl | he
        · exact htext w rfl
        · exact hold e he
    · intro header hheader
      rcases List.mem_append.1 hheader with hmem | hmem
      · exact h.headers header (by rw [hes]; exact hmem)
      · exact ⟨text, List.mem_singleton.1 hmem, htext⟩
  | localStorage =>
    obtain ⟨store, hchange, rfl⟩ := Outcome.map_eq_ok_iff.1 hwrite
    exact { h with localStorage := holdsOnly_change h.localStorage htext hchange }
  | sessionStorage =>
    obtain ⟨store, hchange, rfl⟩ := Outcome.map_eq_ok_iff.1 hwrite
    exact { h with sessionStorage := holdsOnly_change h.sessionStorage htext hchange }
  | _ =>
    cases hwrite
    exact h

end DetectionContext

/-! ## Storing a choice with many strategies -/

namespace Detector

variable {d : Detector} {text : Option String} {report : String → String → Event}
  {name : String} {names : List String}

/-- What is kept by each strategy that stores a choice is kept by all of them. -/
theorem storeAll_induction {P : Detector → Prop} (h : P d)
    (hstep : ∀ (d : Detector) name s s' c, P d → Entries.get? d.strategies name = some s →
      s.store d.options text d.context = .ok (s', c) →
        P { d with strategies := Entries.put d.strategies name s', context := c }) :
    P (d.storeAll text report names).detector := by
  fun_induction storeAll d text report names with
  | case1 => exact h
  | case2 d name rest hs ih => exact ih h
  | case3 d name rest s hs hpersistent ih => exact ih h
  | case4 d name rest s hs hpersistent s' c hstore ih => exact ih (hstep d name s s' c h hs hstore)
  | case5 d name rest s hs hpersistent f hstore hfailure o ih => exact ih h
  | case6 d name rest s hs hpersistent f hstore hfailure => exact h

/-- Whether strategies fail to store a choice only as stores fail. -/
structure IsPassable (d : Detector) : Prop where
  names : d.options.HasTextNames
  lasting : d.options.HasLastingCookie
  stores : d.context.HasPassableStores
  customs : ∀ name s f, Entries.get? d.strategies name = some (.custom s) →
    s.storing = some (.error f) → isStoreFailure f = true

/-- Whether a name is that of a built-in strategy with a store that exists and can be used. -/
def CanStore (d : Detector) (name : String) : Prop :=
  ∃ kind : BuiltIn, Entries.get? d.strategies name = some (.builtIn kind) ∧
    kind.HasStore d.context

/-- Whether such a strategy looks an answer up in its store, whichever languages are supported. -/
def Recalls (d : Detector) (name : String) (answer : Option String) : Prop :=
  ∃ kind : BuiltIn, Entries.get? d.strategies name = some (.builtIn kind) ∧
    kind.HasStore d.context ∧
      ∀ supported, kind.lookup d.options supported d.context = .ok answer

section Step

variable {s s' : Strategy} {c : DetectionContext}
  (hs : Entries.get? d.strategies name = some s)
  (hstore : s.store d.options text d.context = .ok (s', c))
include hs hstore

/-- Built-in strategies stay where they are. -/
theorem get?_put_stored {other : String} {kind : BuiltIn}
    (h : Entries.get? d.strategies other = some (.builtIn kind)) :
    Entries.get? (Entries.put d.strategies name s') other = some (.builtIn kind) := by
  by_cases hne : other = name
  · subst hne
    cases hs.symm.trans h
    rw [Entries.get?_put_self]
    rcases Strategy.store_eq_ok hstore with ⟨k, hk, rfl, -⟩ | ⟨t, t', ht, -⟩
    · cases hk
      rfl
    · cases ht
  · rw [Entries.get?_put_ne _ _ hne, h]

theorem IsPassable.store (hd : d.IsPassable) :
    IsPassable { d with strategies := Entries.put d.strategies name s', context := c } where
  names := hd.names
  lasting := hd.lasting
  stores := by
    rcases Strategy.store_eq_ok hstore with ⟨kind, -, -, hwrite⟩ | ⟨t, t', -, -, -, rfl⟩
    · exact BuiltIn.hasPassableStores_write hd.names hd.stores hwrite
    · exact hd.stores
  customs := by
    intro other t f ht hf
    by_cases hne : other = name
    · subst hne
      rw [Entries.get?_put_self] at ht
      rcases Strategy.store_eq_ok hstore with ⟨kind, -, rfl, -⟩ | ⟨t₀, t', rfl, rfl, hstoring, -⟩
      · cases ht
      · cases ht
        exact hd.customs other t₀ f hs (hstoring ▸ hf)
    · rw [Entries.get?_put_ne _ _ hne] at ht
      exact hd.customs other t f ht hf

theorem CanStore.store (hd : d.IsPassable) {other : String} (h : d.CanStore other) :
    CanStore { d with strategies := Entries.put d.strategies name s', context := c } other := by
  obtain ⟨kind, hkind, hhas⟩ := h
  refine ⟨kind, get?_put_stored hs hstore hkind, ?_⟩
  rcases Strategy.store_eq_ok hstore with ⟨k, -, -, hwrite⟩ | ⟨t, t', -, -, -, rfl⟩
  · exact hhas.write hd.names hwrite
  · exact hhas

/-- A strategy that stores a choice recalls it. -/
theorem recalls_store (hd : d.IsPassable) (htext : text ≠ some "") (h : d.CanStore name) :
    Recalls { d with strategies := Entries.put d.strategies name s', context := c } name text := by
  obtain ⟨kind, hkind, hhas⟩ := h
  cases hs.symm.trans hkind
  rcases Strategy.store_eq_ok hstore with ⟨k, hk, rfl, hwrite⟩ | ⟨t, t', ht, -⟩
  · cases hk
    obtain ⟨c', hc', hlookup⟩ := BuiltIn.exists_write hd.names hd.lasting htext hhas
    cases hwrite.symm.trans hc'
    exact ⟨kind, Entries.get?_put_self _ _ _, hhas.write hd.names hwrite, hlookup⟩
  · cases ht

/-- Other strategies go on to recall the choice. -/
theorem Recalls.store (hd : d.IsPassable) (htext : text ≠ some "") {other : String}
    (h : d.Recalls other text) :
    Recalls { d with strategies := Entries.put d.strategies name s', context := c } other text := by
  obtain ⟨kind, hkind, hhas, hlookup⟩ := h
  have hput := get?_put_stored hs hstore hkind
  rcases Strategy.store_eq_ok hstore with ⟨k, -, -, hwrite⟩ | ⟨t, t', -, -, -, rfl⟩
  · refine ⟨kind, hput, hhas.write hd.names hwrite, fun supported => ?_⟩
    by_cases hne : kind = k
    · -- One strategy under two names stores the same choice once more.
      subst hne
      obtain ⟨c', hc', hself⟩ := BuiltIn.exists_write hd.names hd.lasting htext hhas
      cases hwrite.symm.trans hc'
      exact hself supported
    · exact (BuiltIn.lookup_write_ne hwrite hne supported).trans (hlookup supported)
  · exact ⟨kind, hput, hhas, hlookup⟩

end Step

theorem storeAll_options (d : Detector) (text : Option String)
    (report : String → String → Event) (names : List String) :
    (d.storeAll text report names).detector.options = d.options :=
  storeAll_induction (P := fun e => e.options = d.options) rfl fun _ _ _ _ _ h _ _ => h

theorem IsPassable.storeAll (hd : d.IsPassable) :
    (d.storeAll text report names).detector.IsPassable :=
  storeAll_induction hd fun _ _ _ _ _ h hs hstore => h.store hs hstore

theorem CanStore.storeAll (hd : d.IsPassable) (h : d.CanStore name) :
    (d.storeAll text report names).detector.CanStore name :=
  (storeAll_induction (P := fun e => e.IsPassable ∧ e.CanStore name) ⟨hd, h⟩
    fun _ _ _ _ _ h hs hstore => ⟨h.1.store hs hstore, h.2.store hs hstore h.1⟩).2

theorem Recalls.storeAll (hd : d.IsPassable) (htext : text ≠ some "") (h : d.Recalls name text) :
    (d.storeAll text report names).detector.Recalls name text :=
  (storeAll_induction (P := fun e => e.IsPassable ∧ e.Recalls name text) ⟨hd, h⟩
    fun _ _ _ _ _ h hs hstore => ⟨h.1.store hs hstore, h.2.store hs hstore h.1 htext⟩).2

theorem IsPassable.isStoreFailure_of_store (hd : d.IsPassable) {s : Strategy} {f : Failure}
    (hs : Entries.get? d.strategies name = some s)
    (h : s.store d.options text d.context = .error f) : isStoreFailure f = true := by
  cases s with
  | builtIn kind =>
    have hwrite : (kind.write d.options text d.context).map (Prod.mk (Strategy.builtIn kind)) =
      .error f := h
    exact BuiltIn.isStoreFailure_of_write hd.names hd.lasting hd.stores
      (Outcome.map_eq_error_iff.1 hwrite)
  | custom t =>
    simp only [Strategy.store] at h
    split at h
    · rename_i g hg
      cases h
      exact hd.customs name t f hs hg
    · cases h
    · cases h

theorem CanStore.exists_store (hd : d.IsPassable) (htext : text ≠ some "") (h : d.CanStore name) :
    ∃ s r, Entries.get? d.strategies name = some s ∧ s.isPersistent = true ∧
      s.store d.options text d.context = .ok r := by
  obtain ⟨kind, hkind, hhas⟩ := h
  obtain ⟨c', hc', -⟩ := BuiltIn.exists_write hd.names hd.lasting htext hhas
  refine ⟨_, (.builtIn kind, c'), hkind, ?_, ?_⟩
  · cases kind <;> first | rfl | exact hhas.elim
  · exact Outcome.map_eq_ok_iff.2 ⟨c', hc', rfl⟩

/-- All strategies that can store a choice do so, and those that fail are passed over. -/
theorem recalls_storeAll (hd : d.IsPassable) (htext : text ≠ some "") :
    (d.storeAll text report names).result = .ok () ∧
      ∀ name ∈ names, d.CanStore name → (d.storeAll text report names).detector.Recalls name text := by
  fun_induction storeAll d text report names with
  | case1 => exact ⟨rfl, fun _ h => absurd h List.not_mem_nil⟩
  | case2 d name rest hs ih =>
    refine ⟨(ih hd).1, List.forall_mem_cons.2 ⟨fun h => ?_, (ih hd).2⟩⟩
    obtain ⟨s, r, hs', -⟩ := h.exists_store hd htext
    cases hs.symm.trans hs'
  | case3 d name rest s hs hpersistent ih =>
    refine ⟨(ih hd).1, List.forall_mem_cons.2 ⟨fun h => ?_, (ih hd).2⟩⟩
    obtain ⟨t, r, ht, hp, -⟩ := h.exists_store hd htext
    cases hs.symm.trans ht
    simp [hp] at hpersistent
  | case4 d name rest s hs hpersistent s' c hstore ih =>
    -- The choice that is stored here has to outlast what the names behind it store.
    have hd' := hd.store hs hstore
    refine ⟨(ih hd').1, List.forall_mem_cons.2 ⟨fun h => ?_, fun other hother h => ?_⟩⟩
    · exact (recalls_store hs hstore hd htext h).storeAll hd' htext
    · exact (ih hd').2 other hother (h.store hs hstore hd)
  | case5 d name rest s hs hpersistent f hstore hfailure o ih =>
    refine ⟨(ih hd).1, List.forall_mem_cons.2 ⟨fun h => ?_, (ih hd).2⟩⟩
    obtain ⟨t, r, ht, -, hr⟩ := h.exists_store hd htext
    cases hs.symm.trans ht
    cases hstore.symm.trans hr
  | case6 d name rest s hs hpersistent f hstore hfailure =>
    exact absurd (hd.isStoreFailure_of_store hs hstore) hfailure

/-- Detection answers with what the first strategy of the order recalls. -/
theorem Recalls.detect {language : String} {supported rest : List String} {fallback : Key}
    (h : d.Recalls name (some language)) (horder : d.options.order = name :: rest)
    (hne : language ≠ "") (hmem : language ∈ supported) :
    (d.detect supported fallback).result = .ok (.text language) := by
  obtain ⟨kind, hkind, -, hlookup⟩ := h
  have hanswer : (Strategy.builtIn kind).lookup d.options supported d.context =
      .ok (some language) := hlookup supported
  simp only [Detector.detect, horder, ask, hkind, hanswer, if_pos (And.intro hne hmem)]

/-! ## Runs -/

variable {uses : List Use} {language : String} {supported : List String}

/-- Whether a language was to be stored in a run when it was supported and not excluded. -/
def WasChosen (d : Detector) (uses : List Use) (language : String) : Prop :=
  ∃ supported, Use.remember language supported ∈ uses ∧ language ∈ supported ∧
    language ∉ d.options.excluded

theorem remember_of_excluded (h : language ∈ d.options.excluded ∨ language ∉ supported) :
    d.remember language supported = ⟨d, [], .ok ()⟩ :=
  if_pos h

theorem remember_of_chosen (hsupported : language ∈ supported)
    (hexcluded : language ∉ d.options.excluded) :
    d.remember language supported =
      d.storeAll (some language) Event.detectorCacheFailed d.options.stores :=
  if_neg (not_or.2 ⟨hexcluded, not_not.2 hsupported⟩)

theorem holdsOnly_storeAll {good : String → Prop} (h : d.context.HoldsOnly d.options good)
    (htext : ∀ v ∈ text, good v) :
    (d.storeAll text report names).detector.context.HoldsOnly d.options good := by
  refine (storeAll_induction
    (P := fun e => e.options = d.options ∧ e.context.HoldsOnly d.options good) ⟨rfl, h⟩ ?_).2
  rintro e name s s' c ⟨hoptions, he⟩ hs hstore
  refine ⟨hoptions, ?_⟩
  rcases Strategy.store_eq_ok hstore with ⟨kind, -, -, hwrite⟩ | ⟨t, t', -, -, -, rfl⟩
  · exact he.write htext (hoptions ▸ hwrite)
  · exact he

/-- One use keeps what the stores hold, if what it stores is of the kind. -/
theorem holdsOnly_use {good : String → Prop} (h : d.context.HoldsOnly d.options good) (u : Use)
    (hu : ∀ language, d.WasChosen [u] language → good language) :
    (d.use u).options = d.options ∧ (d.use u).context.HoldsOnly d.options good := by
  cases u with
  | remember language supported =>
    rw [use]
    by_cases hchosen : language ∈ d.options.excluded ∨ language ∉ supported
    · rw [remember_of_excluded hchosen]
      exact ⟨rfl, h⟩
    · obtain ⟨hexcluded, hsupported⟩ := not_or.1 hchosen
      have hsupported := not_not.1 hsupported
      rw [remember_of_chosen hsupported hexcluded]
      refine ⟨storeAll_options d _ _ _, holdsOnly_storeAll h ?_⟩
      rintro v ⟨⟩
      exact hu language ⟨supported, List.mem_singleton_self _, hsupported, hexcluded⟩
  | forget => exact ⟨storeAll_options d _ _ _, holdsOnly_storeAll h fun v hv => nomatch hv⟩
  | add name s => exact ⟨rfl, h⟩
  | remove name => exact ⟨rfl, h⟩

/-- A run keeps what the stores hold, if all that it stores is of the kind. -/
theorem holdsOnly_useAll {good : String → Prop} (h : d.context.HoldsOnly d.options good)
    (huses : ∀ language, d.WasChosen uses language → good language) :
    (d.useAll uses).context.HoldsOnly d.options good := by
  induction uses generalizing d with
  | nil => exact h
  | cons u rest ih =>
    have hfirst : ∀ language, d.WasChosen [u] language → good language := by
      rintro language ⟨supported, hmem, hchosen⟩
      exact huses language ⟨supported, List.mem_cons.2 (.inl (List.mem_singleton.1 hmem)), hchosen⟩
    obtain ⟨hoptions, hu⟩ := holdsOnly_use h u hfirst
    have hrest := ih (d := d.use u) (hoptions ▸ hu) (by
      rintro language ⟨supported, hmem, hsupported, hexcluded⟩
      exact huses language ⟨supported, List.mem_cons_of_mem _ hmem, hsupported,
        hoptions ▸ hexcluded⟩)
    exact hoptions ▸ hrest

/-! ## Storing, looking up and removing -/

/-- A choice that is supported and not excluded is recalled by every strategy that was to store it
and has a store, until it is removed; another one changes nothing. After a run that began with
nothing stored, all that is stored was chosen in it. -/
theorem recalls_remember (d : Detector) :
    (∀ language supported, d.IsPassable → language ≠ "" → language ∈ supported →
      language ∉ d.options.excluded →
        let kept := d.remember language supported
        let cleared := kept.detector.forget
        kept.result = .ok () ∧ cleared.result = .ok () ∧
          ∀ name ∈ d.options.stores, d.CanStore name →
            kept.detector.Recalls name (some language) ∧
            (∀ fallback rest, d.options.order = name :: rest →
              (kept.detector.detect supported fallback).result = .ok (.text language)) ∧
            cleared.detector.Recalls name none) ∧
    (∀ language supported, language ∈ d.options.excluded ∨ language ∉ supported →
      d.remember language supported = ⟨d, [], .ok ()⟩) ∧
    ∀ uses, d.context.IsBlank →
      (d.useAll uses).context.HoldsOnly d.options (d.WasChosen uses) := by
  refine ⟨fun language supported hd hne hsupported hexcluded => ?_,
    fun language supported => remember_of_excluded, fun uses hblank =>
      holdsOnly_useAll (hblank.holdsOnly _ _) fun _ h => h⟩
  have htext : some language ≠ some "" := fun h => hne (Option.some.inj h)
  rw [remember_of_chosen hsupported hexcluded]
  set kept := d.storeAll (some language) Event.detectorCacheFailed d.options.stores
  have hoptions : kept.detector.options = d.options := storeAll_options d _ _ _
  obtain ⟨hkeptResult, hrecalls⟩ :
      kept.result = .ok () ∧ ∀ name ∈ d.options.stores, d.CanStore name →
        kept.detector.Recalls name (some language) := recalls_storeAll hd htext
  obtain ⟨hclearedResult, hforgets⟩ :
      kept.detector.forget.result = .ok () ∧ ∀ name ∈ kept.detector.options.stores,
        kept.detector.CanStore name → kept.detector.forget.detector.Recalls name none :=
    recalls_storeAll hd.storeAll (by simp)
  refine ⟨hkeptResult, hclearedResult, fun name hname hcan => ?_⟩
  refine ⟨hrecalls name hname hcan, fun fallback rest horder => ?_, ?_⟩
  · exact (hrecalls name hname hcan).detect (hoptions ▸ horder) hne hsupported
  · exact hforgets name (hoptions ▸ hname) (hcan.storeAll hd)

/-- A detector whose local storage is blocked. -/
def halfBlocked : Detector :=
  create
    { DetectionOptions.default with
      order := ["cookie", "navigator"]
      stores := ["localStorage", "cookie", "sessionStorage", "navigator", "ghost"] }
    { DetectionContext.empty with
      localStorage := some (.blocked (.plain .denied "storage is blocked"))
      sessionStorage := some (.items []) }

theorem isPassable_halfBlocked : halfBlocked.IsPassable where
  names := ⟨⟨_, rfl⟩, _, rfl⟩
  lasting := (DetectionOptions.hasLastingCookie_int_iff rfl).2 (by decide)
  stores := {
    cookies := by
      rintro f ⟨⟩
    localStorage := by
      rintro f ⟨⟩
      decide +kernel
    sessionStorage := by
      rintro f ⟨⟩ }
  customs := by
    intro name s f h
    obtain ⟨k, -, hk⟩ := List.mem_map.1 (Entries.mem_of_get? h)
    cases hk

/-- The blocked store keeps no other one from storing the choice. -/
theorem recalls_remember_halfBlocked :
    (halfBlocked.remember "de" ["en", "de"]).result = .ok () ∧
    (halfBlocked.remember "de" ["en", "de"]).detector.Recalls "sessionStorage" (some "de") ∧
    ((halfBlocked.remember "de" ["en", "de"]).detector.detect ["en", "de"] (.text "en")).result =
      .ok (.text "de") ∧
    (halfBlocked.remember "de" ["en", "de"]).detector.forget.detector.Recalls "cookie" none ∧
    halfBlocked.remember "cimode" ["cimode"] = ⟨halfBlocked, [], .ok ()⟩ ∧
    (halfBlocked.useAll [.remember "de" ["en", "de"], .remember "fr" ["en"]]).context.HoldsOnly
      halfBlocked.options
      (halfBlocked.WasChosen [.remember "de" ["en", "de"], .remember "fr" ["en"]]) := by
  obtain ⟨hchosen, hrefused, hruns⟩ := recalls_remember halfBlocked
  obtain ⟨hresult, -, hnames⟩ := hchosen "de" ["en", "de"] isPassable_halfBlocked (by decide) (by decide)
    (by decide)
  obtain ⟨-, hdetects, hcleared⟩ := hnames "cookie" (by decide) ⟨.cookie, rfl, _, _, rfl⟩
  obtain ⟨hsession, -⟩ := hnames "sessionStorage" (by decide) ⟨.sessionStorage, rfl, _, rfl⟩
  refine ⟨hresult, hsession, hdetects (.text "en") _ rfl, hcleared,
    hrefused _ _ (.inl (by decide)), hruns _ ⟨rfl, rfl, ?_, ?_⟩⟩
  · rintro s ⟨⟩
    rfl
  · rintro s ⟨⟩
    rfl

end Detector
end Polyglot
