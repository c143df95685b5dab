import Polyglot.Proofs.Config.Binding

/-!
# Lists and mappings among settings

A field that is a list or a mapping holds what is configured for it, or its default, as long as no
variable overrides it: the text of a variable takes the place of a collection as it does that of a
text.
-/
namespace Polyglot.Config

variable {c : Config} {env : Environment} {location : String} {s : Schema} {f : Field}
  {fields : List Field} {find : Field → Except BindFault (Option Value)} {es : Bundle}
  {d v : Value}

/-! ## Fields of a filled record -/

/-- Whether a field is filled with a value: the one found for it, or else its default. -/
def Settles (find : Field → Except BindFault (Option Value)) (f : Field) (v : Value) : Prop :=
  ∃ o, find f = .ok o ∧ o.or f.default = some v

theorem settled_eq_ok_iff {p : Field × Option Value} {e : Key × Value} :
    settled p = .ok e ↔ p.2.or p.1.default = some e.2 ∧ e.1 = .text p.1.name := by
  obtain ⟨k, w⟩ := e
  rw [settled]
  cases p.2.or p.1.default with
  | none => simp
  | some u => simp [eq_comm, and_comm]

theorem fill_eq_ok_iff :
    fill find fields = .ok es ↔
      List.Forall₂ (fun f e => Settles find f e.2 ∧ e.1 = .text f.name) fields es := by
  rw [fill, Outcome.bind_eq_ok_iff]
  simp only [Outcome.mapM_eq_ok_iff, Outcome.map_eq_ok_iff, settled_eq_ok_iff]
  constructor
  · rintro ⟨found, hfound, hes⟩
    induction hfound generalizing es with
    | nil =>
      cases hes
      exact .nil
    | cons hfirst _ ih =>
      obtain ⟨o, ho, rfl⟩ := hfirst
      obtain _ | ⟨⟨hv, hname⟩, hrest⟩ := hes
      exact .cons ⟨⟨o, ho, hv⟩, hname⟩ (ih hrest)
  · intro h
    induction h with
    | nil => exact ⟨[], .nil, .nil⟩
    | cons hfirst _ ih =>
      obtain ⟨⟨o, ho, hv⟩, hname⟩ := hfirst
      obtain ⟨found, hfound, hes⟩ := ih
      exact ⟨_ :: found, .cons ⟨o, ho, rfl⟩ hfound, .cons ⟨hv, hname⟩ hes⟩

theorem exists_fill_eq_ok_iff :
    (∃ es, fill find fields = .ok es) ↔ ∀ f ∈ fields, ∃ v, Settles find f v := by
  simp only [fill_eq_ok_iff]
  induction fields with
  | nil => simp
  | cons f r ih =>
    rw [List.forall_mem_cons, ← ih]
    constructor
    · rintro ⟨_, _ | ⟨⟨hv, _⟩, hrest⟩⟩
      exact ⟨⟨_, hv⟩, _, hrest⟩
    · rintro ⟨⟨v, hv⟩, es, hrest⟩
      exact ⟨(.text f.name, v) :: es, .cons ⟨hv, rfl⟩ hrest⟩

theorem get?_of_fill (hnodup : (fields.map Field.name).Nodup) (h : fill find fields = .ok es)
    (hf : f ∈ fields) : ∃ v, Settles find f v ∧ Entries.get? es (Key.text f.name) = some v := by
  rw [fill_eq_ok_iff] at h
  induction h with
  | nil => cases hf
  | @cons g e r t hfirst _ ih =>
    obtain ⟨k, w⟩ := e
    obtain ⟨hw, rfl⟩ := hfirst
    rw [List.map_cons] at hnodup
    obtain ⟨hg, hr⟩ := List.nodup_cons.1 hnodup
    rcases List.mem_cons.1 hf with rfl | hf
    · exact ⟨w, hw, by simp [Entries.get?]⟩
    · have hne : g.name ≠ f.name := fun heq => hg (heq ▸ List.mem_map_of_mem hf)
      obtain ⟨v, hv, hget⟩ := ih hr hf
      exact ⟨v, hv, by simpa [Entries.get?, hne] using hget⟩

/-! ## Collections -/

/-- Whether a value is a list where another one is, and a mapping where the other one is. -/
def isLike : Value → Value → Bool
  | .list _, .list _ => true
  | .dict _, .dict _ => true
  | _, _ => false

/-- Whether a value is a collection of the kind that the default of a field is. -/
def Field.fits (f : Field) (v : Value) : Bool := f.default.any fun d => isLike d v

/-- Whether a filled record holds for a field the collection that is configured, or else the one
that is its default. -/
def KeepsCollection (c : Config) (location : String) (es : Bundle) (f : Field) : Prop :=
  ∃ v, (configured? c location f).or f.default = some v ∧ f.fits v = true ∧
    Entries.get? es (Key.text f.name) = some v

theorem coerce_of_fits (h : f.fits v = true) (kind : FieldKind) : coerce c env kind v = .ok v := by
  obtain ⟨d, -, hd⟩ := (Option.any_eq_true _ f.default).1 h
  cases v with
  | list => rfl
  | dict => rfl
  | _ => cases d <;> cases hd

theorem fits_text (f : Field) (t : String) : f.fits (.text t) = false := by
  rw [Field.fits]
  cases f.default with
  | none => rfl
  | some d => cases d <;> rfl

theorem text_of_coerce {t : String} (h : coerce c env .other (.text t) = .ok v) :
    ∃ u, v = .text u := by
  rw [coerce] at h
  split at h
  · split at h
    · rename_i u _
      exact ⟨u, (Except.ok.inj h).symm⟩
    · cases h
  · exact ⟨t, (Except.ok.inj h).symm⟩

/-- A variable puts a text into the place of a collection. -/
theorem text_of_settles_override {t : String} (hkind : f.kind = .other)
    (hoverride : override? env location f = some t)
    (h : Settles (boundValue c env location) f v) : ∃ u, v = .text u := by
  obtain ⟨o, ho, hv⟩ := h
  rw [boundValue_of_override hoverride, hkind] at ho
  obtain ⟨w, hw, rfl⟩ := Outcome.map_eq_ok_iff.1 ho
  cases hv
  exact text_of_coerce hw

/-- Without a variable, a collection is taken as it is configured. -/
theorem configured_of_settles (hoverride : override? env location f = none)
    (hfits : ∀ v, configured? c location f = some v → f.fits v = true)
    (h : Settles (boundValue c env location) f v) :
    (configured? c location f).or f.default = some v := by
  obtain ⟨o, ho, hv⟩ := h
  rw [boundValue, given?_eq, hoverride, Option.map_none, Option.none_or] at ho
  cases hconfigured : configured? c location f with
  | none =>
    rw [hconfigured] at ho
    cases ho
    exact hv
  | some w =>
    rw [hconfigured] at ho
    dsimp only at ho
    rw [coerce_of_fits (hfits w hconfigured)] at ho
    cases ho
    exact hv

/-! ## The records of the library -/

/-- The records of settings of the library. -/
def propertySchemas : List Schema :=
  [ClientSettings.schema, RetrySettings.schema, CacheSettings.schema, FormatterSettings.schema,
    DetectionSettings.schema, loggingSchema]

/-- Records whose fields have names and defaults, collections where they take collections. -/
structure HaveDefaults (s : Schema) : Prop where
  unchecked : s.isChecked = false
  names : HaveNames s.fields
  default : ∀ f ∈ s.fields, f.default.isSome = true
  fits : ∀ f ∈ s.fields, f.kind = .other → f.default.any f.fits = true

theorem haveDefaults_of_mem (h : s ∈ propertySchemas) : HaveDefaults s where
  unchecked := by revert s; decide
  names := by revert s; decide +kernel
  default := by revert s; decide
  fits := by revert s; decide +kernel

theorem HaveDefaults.fits_of_configured (h : HaveDefaults s) (hf : f ∈ s.fields)
    (hkind : f.kind = .other)
    (hfits : ∀ v, configured? c location f = some v → f.fits v = true)
    (hconfigured : (configured? c location f).or f.default = some v) : f.fits v = true := by
  rcases Option.or_eq_some_iff.1 hconfigured with hsome | ⟨-, hdefault⟩
  · exact hfits v hsome
  · have hany := h.fits f hf hkind
    rw [hdefault] at hany
    exact hany

/-- A record is filled exactly if each of its fields can be given its value, and then it holds a
collection that is configured, or the default of the field, unless a variable overrides the field:
then it holds a text in its place. -/
theorem keepsCollection_iff (hs : s ∈ propertySchemas) (hlocation : s.location = some location)
    (hfits : ∀ f ∈ s.fields, f.kind = .other → ∀ v, configured? c location f = some v →
      f.fits v = true) :
    ((∃ es, bind c env s = .ok es) ↔
      ∀ f ∈ s.fields, ∃ o, boundValue c env location f = .ok o) ∧
    ∀ es, bind c env s = .ok es → ∀ f ∈ s.fields, f.kind = .other →
      (KeepsCollection c location es f ↔ override? env location f = none) ∧
      ∀ t, override? env location f = some t →
        ∃ u, Entries.get? es (Key.text f.name) = some (.text u) := by
  have hschema := haveDefaults_of_mem hs
  rw [bind_eq_fill hlocation hschema.unchecked hschema.names]
  constructor
  · rw [exists_fill_eq_ok_iff]
    refine forall₂_congr fun f hf => ?_
    obtain ⟨d, hd⟩ := Option.isSome_iff_exists.1 (hschema.default f hf)
    constructor
    · rintro ⟨v, o, ho, -⟩
      exact ⟨o, ho⟩
    · rintro ⟨o, ho⟩
      exact ⟨o.getD d, o, ho, by rw [hd]; cases o <;> rfl⟩
  · intro es hes f hf hkind
    obtain ⟨v, hv, hget⟩ := get?_of_fill hschema.names.nodup hes hf
    refine ⟨⟨?_, ?_⟩, ?_⟩
    · rintro ⟨w, -, hw, hgetw⟩
      by_contra hset
      obtain ⟨t, hoverride⟩ := Option.ne_none_iff_exists'.1 hset
      obtain ⟨u, rfl⟩ := text_of_settles_override hkind hoverride hv
      cases hget.symm.trans hgetw
      rw [fits_text] at hw
      cases hw
    · intro hoverride
      have hconfigured := configured_of_settles hoverride (hfits f hf hkind) hv
      exact ⟨v, hconfigured, hschema.fits_of_configured hf hkind (hfits f hf hkind) hconfigured,
        hget⟩
    · intro t hoverride
      obtain ⟨u, rfl⟩ := text_of_settles_override hkind hoverride hv
      exact ⟨u, hget⟩

/-- A configured level of the log. -/
def levelData : Bundle :=
  [("lingx", .dict [("logging", .dict [("level", .dict [("root", .text "DEBUG")])])])]

def formatVariables : Environment := [("LINGX_LOGGING_FORMAT", "json")]

def levelVariables : Environment := [("LINGX_LOGGING_LEVEL", "DEBUG")]

theorem fits_level : ∀ f ∈ loggingSchema.fields, f.kind = .other → ∀ v,
    configured? (ofData levelData) "lingx.logging" f = some v → f.fits v = true := by
  have hfits : ∀ f ∈ loggingSchema.fields, f.kind = .other →
      ∀ v ∈ configured? (ofData levelData) "lingx.logging" f, f.fits v = true := by
    decide +kernel
  exact hfits

/-- The configured level stays while the format is overridden. -/
theorem keepsCollection_level :
    ∃ es, bind (ofData levelData) formatVariables loggingSchema = .ok es ∧
      ∀ f ∈ loggingSchema.fields, f.kind = .other →
        KeepsCollection (ofData levelData) "lingx.logging" es f := by
  have hs : loggingSchema ∈ propertySchemas := by simp [propertySchemas]
  have hbound : ∀ f ∈ loggingSchema.fields,
      (boundValue (ofData levelData) formatVariables "lingx.logging" f).toBool = true := by
    decide +kernel
  have hplain : ∀ f ∈ loggingSchema.fields, f.kind = .other →
      override? formatVariables "lingx.logging" f = none := by
    decide +kernel
  obtain ⟨es, hes⟩ : ∃ es, bind (ofData levelData) formatVariables loggingSchema = .ok es :=
    (keepsCollection_iff hs rfl fits_level).1.2 fun f hf =>
      Outcome.exists_ok_of_toBool (hbound f hf)
  refine ⟨es, hes, fun f hf hkind => ?_⟩
  exact ((keepsCollection_iff hs rfl fits_level).2 es hes f hf hkind).1.2 (hplain f hf hkind)

/-- A variable for the level takes the place of the levels of all loggers. -/
theorem not_forall_keepsCollection :
    ¬∀ (c : Config) (env : Environment) (s : Schema) (location : String),
      s ∈ propertySchemas → s.location = some location →
        (∀ f ∈ s.fields, f.kind = .other → ∀ v, configured? c location f = some v →
          f.fits v = true) →
        ∃ es, bind c env s = .ok es ∧
          ∀ f ∈ s.fields, f.kind = .other → KeepsCollection c location es f := by
  intro h
  obtain ⟨es, hes, hkeeps⟩ := h (ofData levelData) levelVariables loggingSchema "lingx.logging"
    (by simp [propertySchemas]) rfl fits_level
  obtain ⟨v, -, hfits, hname⟩ := hkeeps _ (.tail _ (.head _)) rfl
  have hget : Entries.get? es (Key.text "level") = some v := hname
  have hlevel : (bind (ofData levelData) levelVariables loggingSchema).toOption.bind
      (fun es => (Entries.get? es (Key.text "level")).bind Value.text?) = some "DEBUG" := by
    decide +kernel
  have htext : v.text? = some "DEBUG" := by
    have hread : (Entries.get? es (Key.text "level")).bind Value.text? = some "DEBUG" := by
      rwa [hes] at hlevel
    rwa [hget] at hread
  obtain rfl : v = .text "DEBUG" := by cases v <;> cases htext; rfl
  rw [fits_text] at hfits
  cases hfits

end Polyglot.Config
