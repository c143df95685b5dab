import Polyglot.Config.Settings
import Polyglot.Proofs.Bundle.Lookup
import Polyglot.Proofs.Config.Reference
import Polyglot.Proofs.Entries
import Polyglot.Proofs.Number.Literal

/-!
# Bound fields

Filling a record gives every field what reading its key gives, in the kind of the field, unless a
variable takes precedence whose text refers to something: reading leaves the text of a variable as
it is, and filling a record resolves it.
-/
namespace Polyglot.Config

variable {c : Config} {env : Environment} {location : String} {f : Field} {fields : List Field}

/-! ## Fields of a section -/

/-- The key under which a field of a section is read. -/
def fieldKey (location name : String) : String := location ++ "." ++ name

/-- The variable that takes precedence over a field of a section. -/
def override? (env : Environment) (location : String) (f : Field) : Option String :=
  Entries.get? env (variableOf (fieldKey location f.name))

/-- The value that a section holds for a field; null is none. -/
def configured? (c : Config) (location : String) (f : Field) : Option Value :=
  (Entries.get? (sectionAt c.data location) f.name).filter fun v => !v.isNull

theorem valueAt?_append (v : Value) (front path : List String) :
    valueAt? v (front ++ path) = (valueAt? v front).bind fun w => valueAt? w path := by
  induction front generalizing v with
  | nil => rfl
  | cons k ks ih =>
    cases v with
    | dict es =>
      rw [List.cons_append, valueAt?, valueAt?]
      cases Entries.get? es (Key.text k) with
      | none => rfl
      | some w =>
        cases w with
        | null => rfl
        | _ => exact ih _
    | _ => rfl

theorem find?_fieldKey (hdot : '.' ∉ f.name.toList) :
    find? c.data (fieldKey location f.name) = configured? c location f := by
  have hlast : ∀ w, valueAt? w [f.name] =
      (w.entries?.bind fun es => Entries.get? es (Key.text f.name)).filter fun v => !v.isNull := by
    intro w
    cases w with
    | dict es =>
      simp only [valueAt?, Value.entries?, Option.bind_some]
      cases Entries.get? es (Key.text f.name) with
      | none => rfl
      | some u => cases u <;> rfl
    | _ => rfl
  rw [find?, fieldKey, keyPath_append_name location hdot, valueAt?_append, configured?, sectionAt,
    find?]
  cases valueAt? (.dict c.data) (keyPath location) with
  | none => rfl
  | some w =>
    rw [Option.bind_some, hlast]
    cases w <;> rfl

theorem given?_eq (env : Environment) (location : String) (c : Config) (f : Field) :
    given? env location (sectionAt c.data location) f.name =
      ((override? env location f).map Value.text).or (configured? c location f) := by
  rw [given?, override?, fieldKey, configured?]
  cases Entries.get? env (variableOf (location ++ "." ++ f.name)) with
  | some t => rfl
  | none =>
    cases Entries.get? (sectionAt c.data location) (Key.text f.name) with
    | none => rfl
    | some v => cases v <;> rfl

/-! ## Filling a record -/

/-- What filling a record makes of the value that is given for a field, if there is one. -/
def boundValue (c : Config) (env : Environment) (location : String) (f : Field) :
    Except BindFault (Option Value) :=
  match given? env location (sectionAt c.data location) f.name with
  | none => .ok none
  | some v => (coerce c env f.kind v).map some

/-- A field with its value: the one that was found for it, or else its default. -/
def settled (p : Field × Option Value) : Except BindFault (Key × Value) :=
  match p.2.or p.1.default with
  | none => .error (.missing p.1.name)
  | some v => .ok (.text p.1.name, v)

/-- Fills fields with what is found for each of them. The first field for which finding fails
decides, and then the first one without a value. -/
def fill (find : Field → Except BindFault (Option Value)) (fields : List Field) :
    Except BindFault Bundle := do
  let found ← fields.mapM fun f => (find f).map fun v => (f, v)
  found.mapM settled

/-- Whether the names of fields tell them apart and can be parts of a path. -/
structure HaveNames (fields : List Field) : Prop where
  nodup : (fields.map Field.name).Nodup
  dot : ∀ f ∈ fields, '.' ∉ f.name.toList

instance (fields : List Field) : Decidable (HaveNames fields) :=
  decidable_of_iff ((fields.map Field.name).Nodup ∧ ∀ f ∈ fields, '.' ∉ f.name.toList)
    ⟨fun h => ⟨h.1, h.2⟩, fun h => ⟨h.nodup, h.dot⟩⟩

def foundEntries (found : List (Field × Option Value)) : Bundle :=
  found.filterMap fun p => p.2.map fun v => (.text p.1.name, v)

theorem givenFields_eq (fields : List Field) :
    givenFields c env location (sectionAt c.data location) fields =
      (fields.mapM fun f => (boundValue c env location f).map fun v => (f, v)).map
        foundEntries := by
  induction fields with
  | nil => rfl
  | cons f r ih =>
    rw [givenFields, List.mapM_cons, boundValue]
    cases given? env location (sectionAt c.data location) f.name with
    | none =>
      dsimp only
      rw [ih]
      cases r.mapM fun f => (boundValue c env location f).map fun v => (f, v) <;> rfl
    | some v =>
      dsimp only
      rw [ih]
      cases coerce c env f.kind v with
      | error e => rfl
      | ok w => cases r.mapM fun f => (boundValue c env location f).map fun v => (f, v) <;> rfl

theorem get?_foundEntries_of_not_mem {found : List (Field × Option Value)} {name : String}
    (h : name ∉ found.map fun p => p.1.name) :
    Entries.get? (foundEntries found) (Key.text name) = none := by
  rw [Entries.get?_eq_none_iff]
  intro hkey
  obtain ⟨e, he, hname⟩ := List.mem_map.1 hkey
  obtain ⟨p, hp, hpe⟩ := List.mem_filterMap.1 he
  obtain ⟨v, -, rfl⟩ := Option.map_eq_some_iff.1 hpe
  exact h (Key.text.inj hname ▸ List.mem_map_of_mem hp)

theorem get?_foundEntries {found : List (Field × Option Value)}
    (hnodup : (found.map fun p => p.1.name).Nodup) {p : Field × Option Value} (hp : p ∈ found) :
    Entries.get? (foundEntries found) (Key.text p.1.name) = p.2 := by
  induction found with
  | nil => cases hp
  | cons q r ih =>
    obtain ⟨g, o⟩ := q
    rw [List.map_cons] at hnodup
    obtain ⟨hg, hr⟩ := List.nodup_cons.1 hnodup
    rcases List.mem_cons.1 hp with rfl | hp
    · cases o with
      | none =>
        have hrest : Entries.get? (foundEntries r) (Key.text g.name) = none :=
          get?_foundEntries_of_not_mem hg
        exact hrest
      | some v => simp [foundEntries, Entries.get?]
    · have hne : g.name ≠ p.1.name := by
        intro heq
        exact hg (List.mem_map.2 ⟨p, hp, heq.symm⟩)
      have hrest := ih hr hp
      cases o with
      | none => exact hrest
      | some v => simpa [foundEntries, Entries.get?, hne] using hrest

theorem complete_eq {given : Bundle} {found : List (Field × Option Value)}
    (h : ∀ p ∈ found, Entries.get? given (Key.text p.1.name) = p.2) :
    complete given (found.map Prod.fst) = found.mapM settled := by
  induction found with
  | nil => rfl
  | cons q r ih =>
    rw [List.map_cons, complete, h q List.mem_cons_self, List.mapM_cons, settled,
      ih fun p hp => h p (List.mem_cons_of_mem _ hp)]
    cases q.2 <;> cases q.1.default <;> cases r.mapM settled <;> rfl

theorem map_fst_of_mapM {find : Field → Except BindFault (Option Value)}
    {found : List (Field × Option Value)}
    (h : fields.mapM (fun f => (find f).map fun v => (f, v)) = .ok found) :
    found.map Prod.fst = fields := by
  induction Outcome.mapM_eq_ok_iff.1 h with
  | nil => rfl
  | cons hfirst hrest ih =>
    obtain ⟨v, -, rfl⟩ := Outcome.map_eq_ok_iff.1 hfirst
    rw [List.map_cons, ih (Outcome.mapM_eq_ok_iff.2 hrest)]

/-- Filling an unchecked record settles each of its fields. -/
theorem bind_eq_fill {s : Schema} (hlocation : s.location = some location)
    (hchecked : s.isChecked = false) (hnames : HaveNames s.fields) :
    bind c env s = fill (boundValue c env location) s.fields := by
  rw [bind, hlocation]
  dsimp only
  rw [hchecked, givenFields_eq, fill]
  cases hfound : s.fields.mapM fun f => (boundValue c env location f).map fun v => (f, v) with
  | error e => rfl
  | ok found =>
    have hfields := map_fst_of_mapM hfound
    have hnodup : (found.map fun p => p.1.name).Nodup := by
      have hfield := hnames.nodup
      rwa [← hfields, List.map_map] at hfield
    have hcomplete := complete_eq fun p hp => get?_foundEntries hnodup hp
    rw [hfields] at hcomplete
    exact hcomplete

/-! ## Reading a key -/

/-- What the kind of a field makes of a value that was read. -/
def converted (kind : FieldKind) : Value → Except BindFault Value
  | .text t => readText kind t
  | v => .ok v

/-- What reading the key of a field gives for it, if there is a value. -/
def readValue (c : Config) (env : Environment) (location : String) (f : Field) :
    Except BindFault (Option Value) :=
  match c.get env (fieldKey location f.name) .null with
  | .error e => .error (.placeholder e)
  | .ok .null => .ok none
  | .ok v => (converted f.kind v).map some

/-- Whether a text that refers to something is read as one kind of value before and after it is
resolved. A number cannot be read before, and anything but the words for true is false. -/
def SaysSame (c : Config) (env : Environment) (kind : FieldKind) (t : String) : Prop :=
  match kind with
  | .whole | .number => ∀ u, resolve env c.data t = .ok u → (readText kind u).toOption = none
  | .truth => ∃ u, resolve env c.data t = .ok u ∧ readText .truth u = .ok (.bool false)
  | .text | .other => resolve env c.data t = .ok t

theorem boundValue_of_override_eq_none (hdot : '.' ∉ f.name.toList)
    (h : override? env location f = none) :
    boundValue c env location f = readValue c env location f := by
  rw [boundValue, given?_eq, h, readValue, get, ← override?, h, find?_fieldKey hdot]
  cases hconfigured : configured? c location f with
  | none => rfl
  | some v =>
    have hnull : v.isNull = false := by
      have hv := (Option.filter_eq_some_iff.1 hconfigured).2
      simpa using hv
    cases v with
    | text t =>
      simp only [Option.map_none, Option.none_or, coerce]
      split
      · cases resolve env c.data t <;> rfl
      · rfl
    | null => cases hnull
    | _ => rfl

theorem boundValue_of_override {t : String} (h : override? env location f = some t) :
    boundValue c env location f = (coerce c env f.kind (.text t)).map some := by
  rw [boundValue, given?_eq, h]
  rfl

theorem readValue_of_override {t : String} (h : override? env location f = some t) :
    readValue c env location f = (readText f.kind t).map some := by
  rw [readValue, get_of_variable h]
  rfl

theorem dollar_mem_of_mayRefer {t : String} (h : mayRefer t = true) : '$' ∈ t.toList := by
  by_contra hnot
  rw [mayRefer, contains_eq_false hnot] at h
  cases h

theorem dollar_mem_lowerFrom {cs : List Char} (h : '$' ∈ cs) (before : List Char) :
    '$' ∈ Text.lowerFrom before cs := by
  induction cs generalizing before with
  | nil => cases h
  | cons c r ih =>
    rw [Text.lowerFrom, List.mem_append]
    rcases List.mem_cons.1 h with rfl | hr
    · have hdollar : '$' ∈ Text.lowerChar '$' := by decide
      left
      rwa [Text.lowerBetween, if_neg (by decide)]
    · exact .inr (ih hr _)

theorem dollar_mem_lower {t : String} (h : '$' ∈ t.toList) : '$' ∈ (Text.lower t).toList := by
  rw [Text.lower, String.toList_ofList]
  exact dollar_mem_lowerFrom h []

/-- A text that refers to something is no number, and it is no word for true. -/
theorem readText_of_mayRefer {t : String} (h : mayRefer t = true) (kind : FieldKind) :
    (readText kind t).toOption =
      match kind with
      | .whole | .number => none
      | .truth => some (.bool false)
      | .text | .other => some (.text t) := by
  have hdollar := dollar_mem_of_mayRefer h
  cases kind with
  | whole => simp [readText, Literal.isForeign_dollar.int_eq_malformed hdollar, Except.toOption]
  | number => simp [readText, Literal.isForeign_dollar.binary64?_eq_none hdollar, Except.toOption]
  | truth =>
    have hword : Text.lower t ∉ trueWords := by
      intro hmem
      have hlower := dollar_mem_lower hdollar
      revert hlower
      generalize Text.lower t = w at hmem
      revert w
      decide
    simp [readText, hword, Except.toOption]
  | _ => rfl

/-- A variable that refers to something says the same before and after it is resolved. -/
theorem toOption_coerce_eq_iff {t : String} (h : mayRefer t = true) (kind : FieldKind) :
    (coerce c env kind (.text t)).toOption = (readText kind t).toOption ↔
      SaysSame c env kind t := by
  rw [readText_of_mayRefer h, coerce, if_pos h]
  cases hresolve : resolve env c.data t with
  | error e => cases kind <;> simp [SaysSame, Except.toOption, hresolve]
  | ok u => cases kind <;> simp [SaysSame, readText, Except.toOption, hresolve]

theorem toOption_map_some_eq_iff {x y : Except BindFault Value} :
    (x.map some).toOption = (y.map some).toOption ↔ x.toOption = y.toOption := by
  cases x <;> cases y <;> simp [Except.map, Except.toOption]

theorem toOption_boundValue_eq_iff (hdot : '.' ∉ f.name.toList) :
    (boundValue c env location f).toOption = (readValue c env location f).toOption ↔
      ∀ t, override? env location f = some t → mayRefer t = true → SaysSame c env f.kind t := by
  cases hoverride : override? env location f with
  | none => simp [boundValue_of_override_eq_none hdot hoverride]
  | some t =>
    rw [boundValue_of_override hoverride, readValue_of_override hoverride,
      toOption_map_some_eq_iff]
    cases hrefer : mayRefer t with
    | true => simpa [hrefer] using toOption_coerce_eq_iff hrefer f.kind
    | false => simp [coerce, hrefer]

theorem boundValue_eq_readValue (hdot : '.' ∉ f.name.toList)
    (h : ∀ t, override? env location f = some t → mayRefer t = false) :
    boundValue c env location f = readValue c env location f := by
  cases hoverride : override? env location f with
  | none => exact boundValue_of_override_eq_none hdot hoverride
  | some t =>
    rw [boundValue_of_override hoverride, readValue_of_override hoverride, coerce,
      if_neg (by simp [h t hoverride])]

theorem fill_congr {find find' : Field → Except BindFault (Option Value)}
    (h : ∀ f ∈ fields, find f = find' f) : fill find fields = fill find' fields := by
  rw [fill, fill, Outcome.mapM_congr fun f hf => by rw [h f hf]]

/-- Filling a record gives each field what reading its key gives, or its default where there is
nothing, and it fails through a field where reading its key does, except that a variable which
refers to something is resolved by the one and left alone by the other. -/
theorem bind_eq_fill_readValue {s : Schema} (hlocation : s.location = some location)
    (hchecked : s.isChecked = false) (hnames : HaveNames s.fields) :
    bind c env s = fill (boundValue c env location) s.fields ∧
    (∀ f ∈ s.fields,
      (boundValue c env location f).toOption = (readValue c env location f).toOption ↔
        ∀ t, override? env location f = some t → mayRefer t = true →
          SaysSame c env f.kind t) ∧
    ((∀ f ∈ s.fields, ∀ t, override? env location f = some t → mayRefer t = false) →
      bind c env s = fill (readValue c env location) s.fields) := by
  have hbind : bind c env s = fill (boundValue c env location) s.fields :=
    bind_eq_fill hlocation hchecked hnames
  refine ⟨hbind, ?_, ?_⟩
  · intro f hf
    exact toOption_boundValue_eq_iff (hnames.dot f hf)
  · intro hplain
    rw [hbind]
    exact fill_congr fun f hf => boundValue_eq_readValue (hnames.dot f hf) (hplain f hf)

/-- Variables that override the size of a cache. -/
def capacityVariables : Environment := [("LINGX_CACHE_MAX_ENTRIES", "7")]

/-- Variables that override the currency by a reference. -/
def currencyVariables : Environment :=
  [("LINGX_FORMAT_DEFAULT_CURRENCY", "$\x7bCURRENCY\x7d"), ("CURRENCY", "EUR")]

/-- An overridden size is read from its text. -/
theorem bind_cache_eq_fill :
    (bind (ofData []) capacityVariables CacheSettings.schema).toOption.bind
      (fun es => (Entries.get? es (Key.text "max_entries")).map Value.literal) = some "7" := by
  have hplain : ∀ f ∈ CacheSettings.schema.fields,
      ∀ t ∈ override? capacityVariables "lingx.cache" f, mayRefer t = false := by
    decide +kernel
  have hbind : bind (ofData []) capacityVariables CacheSettings.schema =
      fill (readValue (ofData []) capacityVariables "lingx.cache") CacheSettings.schema.fields :=
    (bind_eq_fill_readValue rfl rfl (by decide +kernel)).2.2 hplain
  rw [hbind]
  decide +kernel

/-- A currency that refers to a variable is resolved where the record is filled, and left alone
where its key is read. -/
theorem not_forall_bind_eq_fill_readValue :
    ¬∀ (c : Config) (env : Environment) (s : Schema) (location : String),
      s.location = some location → s.isChecked = false → HaveNames s.fields →
        bind c env s = fill (readValue c env location) s.fields := by
  intro h
  have hsame := h (ofData []) currencyVariables FormatterSettings.schema "lingx.format" rfl rfl
    (by decide +kernel)
  have hbound : (bind (ofData []) currencyVariables FormatterSettings.schema).toOption.bind
      (fun es => (Entries.get? es (Key.text "default_currency")).bind Value.text?) =
        some "EUR" := by
    decide +kernel
  rw [hsame] at hbound
  revert hbound
  decide +kernel

end Polyglot.Config
