import Polyglot.Client.View
import Polyglot.Proofs.Calendar.MissingPart
import Polyglot.Proofs.Entries
import Polyglot.Proofs.Message.Formatter
import Polyglot.Proofs.Message.Interpolation

/-!
# Recovery

A message that cannot be parsed or rendered comes back unchanged, with few exceptions. This
module says which failures are not recovered, by what they come from: a whole number with too
many digits in a message that is not parsed, an offset with too many digits, a count of seconds
beyond the calendar, and a date pattern that asks for a part that is missing.
-/
namespace Polyglot.Message

theorem isRecovered_eq_false_iff {e : RenderFault} :
    e.isRecovered = false ↔ (∃ c, e = .date (.missingPart c)) ∨ e = .epoch .calendar := by
  constructor
  · intro h
    cases e with
    | date f =>
      cases f with
      | missingPart c => exact .inl ⟨c, rfl⟩
      | _ => cases h
    | epoch f =>
      cases f with
      | calendar => exact .inr rfl
      | _ => cases h
    | _ => cases h
  · rintro (⟨c, rfl⟩ | rfl)
    · rfl
    · rfl

/-- An outcome that is not recovered. -/
def Unrecovered (r : Except RenderFault String) : Prop :=
  ∃ e, r = .error e ∧ e.isRecovered = false

theorem unrecovered_iff {r : Except RenderFault String} :
    Unrecovered r ↔
      (∃ c, r = .error (.date (.missingPart c))) ∨ r = .error (.epoch .calendar) := by
  simp only [Unrecovered, isRecovered_eq_false_iff]
  constructor
  · rintro ⟨e, he, ⟨c, rfl⟩ | rfl⟩
    · exact .inl ⟨c, he⟩
    · exact .inr he
  · rintro (⟨c, hc⟩ | hc)
    · exact ⟨_, hc, .inl ⟨c, rfl⟩⟩
    · exact ⟨_, hc, .inr rfl⟩

theorem not_unrecovered_ok {s : String} : ¬ Unrecovered (.ok s) := by
  rintro ⟨e, he, -⟩
  cases he

theorem not_unrecovered_error {e : RenderFault} (h : e.isRecovered = true) :
    ¬ Unrecovered (.error e) := by
  rintro ⟨e', he, hrec⟩
  rw [← Except.error.inj he, h] at hrec
  cases hrec

/-! ## Values -/

theorem writtenText_eq_error_iff {v : Value} {e : RenderFault} :
    writtenText v = .error e ↔ v.isWritable = false ∧ e = .numberTooLong := by
  unfold writtenText
  by_cases h : v.isWritable = true <;> simp [h, eq_comm]

theorem isRecovered_of_writtenText {v : Value} {e : RenderFault} (h : writtenText v = .error e) :
    e.isRecovered = true := by
  rw [(writtenText_eq_error_iff.1 h).2]
  rfl

theorem not_unrecovered_writtenText (v : Value) : ¬ Unrecovered (writtenText v) := by
  rintro ⟨e, he, hrec⟩
  rw [isRecovered_of_writtenText he] at hrec
  cases hrec

/-- Whether a value is a day or a moment that a locale cannot print in medium length. -/
def IsUnprintable (l : Locale) : Value → Prop
  | .moment m => ∃ e, l.moment m = .error e
  | .date d => ∃ e, l.date "medium" d = .error e
  | _ => False

theorem valueText_eq_error_iff {l : Locale} {v : Value} :
    (∃ e, valueText l v = .error e) ↔ v.isWritable = false ∨ IsUnprintable l v := by
  cases v <;>
    simp [valueText, writtenText_eq_error_iff, Value.isWritable, IsUnprintable,
      Outcome.exists_mapError_eq_error_iff]

theorem argumentText_eq_error_iff {l : Locale} {values : Bundle} {name raw : String} :
    (∃ e, argumentText l values name raw = .error e) ↔
      ∃ v, Entries.get? values name = some v ∧ (v.isWritable = false ∨ IsUnprintable l v) := by
  unfold argumentText
  cases Entries.get? values name with
  | none => simp
  | some v => simp [valueText_eq_error_iff]

/-! ## Moments -/

/-- Whether the calendar of the platform has no year for a count of seconds: the count fits 64 bits,
but the year does not fit 32. -/
def IsBeyondYears (seconds : Int) : Prop :=
  (-9223372036854775808 ≤ seconds ∧ seconds < 9223372036854775808) ∧
    (seconds < -67768040609740800 ∨ 67768036191676800 ≤ seconds)

theorem ofEpoch_eq_calendar_iff {seconds : Int} {micro : Nat} :
    Moment.ofEpoch seconds micro = .error .calendar ↔ IsBeyondYears seconds := by
  unfold Moment.ofEpoch IsBeyondYears
  split
  · simp only [Except.error.injEq, reduceCtorEq, false_iff]
    omega
  · split
    · simp only [true_iff]
      omega
    · simp only
      split <;> simp only [Except.error.injEq, reduceCtorEq, false_iff] <;> omega

/-- The whole seconds of a number that is rounded to microseconds, if it is finite. Rounding may
carry a second, and microseconds below zero borrow one. -/
def wholeSeconds? (x : Binary64) : Option Int :=
  x.truncate?.bind fun whole =>
    (x.fraction.mul (Binary64.ofRatio false 1000000 1)).nearestInt?.map fun micro =>
      if 1000000 ≤ micro then whole + 1 else if micro < 0 then whole - 1 else whole

theorem ofEpochSeconds_eq_calendar_iff {x : Binary64} :
    Moment.ofEpochSeconds x = .error .calendar ↔
      ∃ seconds, wholeSeconds? x = some seconds ∧ IsBeyondYears seconds := by
  unfold Moment.ofEpochSeconds wholeSeconds?
  cases x with
  | nan => simp [Binary64.truncate?]
  | infinity negative => simp [Binary64.truncate?]
  | finite negative mantissa exponent =>
    simp only
    cases (Binary64.finite negative mantissa exponent).truncate? with
    | none => simp
    | some whole =>
      cases ((Binary64.finite negative mantissa exponent).fraction.mul
        (Binary64.ofRatio false 1000000 1)).nearestInt? with
      | none => simp
      | some micro =>
        simp only [Option.bind_some, Option.map_some, Option.some.injEq, exists_eq_left']
        split
        · exact ofEpoch_eq_calendar_iff
        · split <;> exact ofEpoch_eq_calendar_iff

/-- Whether a value counts seconds for which the calendar of the platform has no year. -/
def IsBeyondCalendar : Value → Prop
  | .int n => IsBeyondYears n
  | .float x => ∃ seconds, wholeSeconds? x = some seconds ∧ IsBeyondYears seconds
  | _ => False

theorem toMoment_eq_calendar_iff {name : String} {v : Value} :
    toMoment name v = .error (.epoch .calendar) ↔ IsBeyondCalendar v := by
  cases v with
  | text s =>
    simp only [toMoment, IsBeyondCalendar]
    cases Iso.moment? s.toList <;> simp
  | int n =>
    simp only [toMoment, IsBeyondCalendar, Outcome.mapError_eq_error_iff, RenderFault.epoch.injEq,
      exists_eq_right, ofEpoch_eq_calendar_iff]
  | float x =>
    simp only [toMoment, IsBeyondCalendar, Outcome.mapError_eq_error_iff, RenderFault.epoch.injEq,
      exists_eq_right, ofEpochSeconds_eq_calendar_iff]
  | _ => simp [toMoment, IsBeyondCalendar]

theorem toMoment_ne_date (name : String) (v : Value) (f : DateFault) :
    toMoment name v ≠ .error (.date f) := by
  cases v with
  | text s =>
    simp only [toMoment]
    cases Iso.moment? s.toList <;> simp
  | int n => simp [toMoment, Outcome.mapError_eq_error_iff]
  | float x => simp [toMoment, Outcome.mapError_eq_error_iff]
  | _ => simp [toMoment]

/-- The patterns of a locale for a kind of argument. -/
def DateKind.patterns (k : DateKind) (cal : CalendarData) : List (String × String) :=
  match k with
  | .date => cal.datePatterns
  | .time => cal.timePatterns

/-- What a kind of argument prints of a moment. -/
def DateKind.subject (k : DateKind) (m : Moment) : DatePattern.Subject :=
  match k with
  | .date => .ofDate m.date
  | .time => .timeOf m

/-- Whether a style asks for a part of a moment that the kind of the argument leaves out. -/
def AsksMissing (l : Locale) (k : DateKind) (style : Option String) (m : Moment) : Prop :=
  afterFront? "::" (style.getD "medium") = none ∧
    DatePattern.AsksMissing l
      (Locale.patternOf (k.patterns l.data.calendar) (style.getD "medium")) (k.subject m)

theorem printMoment_missingPart_iff {l : Locale} {k : DateKind} {style : Option String}
    {m : Moment} :
    (∃ c, printMoment l k style m = .error (.date (.missingPart c))) ↔
      AsksMissing l k style m := by
  unfold printMoment AsksMissing
  simp only
  cases afterFront? "::" (style.getD "medium") with
  | some skeleton =>
    simp [Outcome.mapError_eq_error_iff, DatePattern.skeleton_ne_missingPart]
  | none =>
    cases k <;>
      simp only [Outcome.mapError_eq_error_iff, RenderFault.date.injEq, exists_eq_right, true_and,
        Locale.date, Locale.time, DatePattern.printDate_missingPart_iff, DateKind.patterns,
        DateKind.subject]

theorem printMoment_ne_calendar (l : Locale) (k : DateKind) (style : Option String) (m : Moment) :
    printMoment l k style m ≠ .error (.epoch .calendar) := by
  unfold printMoment
  simp only
  split
  · simp [Outcome.mapError_eq_error_iff]
  · split <;> simp [Outcome.mapError_eq_error_iff]

theorem unrecovered_printMoment_iff {l : Locale} {k : DateKind} {style : Option String}
    {m : Moment} : Unrecovered (printMoment l k style m) ↔ AsksMissing l k style m := by
  rw [unrecovered_iff, printMoment_missingPart_iff]
  simp [printMoment_ne_calendar]

theorem afterFront?_medium : afterFront? "::" "medium" = none := by decide

/-- A day is printed like a date argument without a style. -/
theorem valueText_date (l : Locale) (d : Date) :
    valueText l (.date d) = printMoment l .date none ⟨d, .midnight, none⟩ := by
  simp [valueText, printMoment, afterFront?_medium]

/-- A moment is printed like a time argument and a date argument without a style, the time first. -/
theorem valueText_moment (l : Locale) (m : Moment) :
    valueText l (.moment m) =
      match printMoment l .time none m with
      | .error e => .error e
      | .ok time =>
          (printMoment l .date none m).map fun day => day ++ l.data.calendar.joiner ++ time := by
  simp only [valueText, Locale.moment, printMoment, Option.getD_none, afterFront?_medium]
  cases l.time "medium" m with
  | error e => rfl
  | ok time => cases l.date "medium" m.date <;> rfl

/-- Whether the medium patterns of a locale ask for a part that a value lacks which they print. -/
def LacksPart (l : Locale) : Value → Prop
  | .moment m =>
      AsksMissing l .time none m ∨
        (∃ time, printMoment l .time none m = .ok time) ∧ AsksMissing l .date none m
  | .date d => AsksMissing l .date none ⟨d, .midnight, none⟩
  | _ => False

theorem unrecovered_valueText_iff {l : Locale} {v : Value} :
    Unrecovered (valueText l v) ↔ LacksPart l v := by
  cases v with
  | date d => rw [valueText_date, unrecovered_printMoment_iff, LacksPart]
  | moment m =>
    rw [valueText_moment, LacksPart, ← unrecovered_printMoment_iff, ← unrecovered_printMoment_iff]
    cases printMoment l .time none m with
    | error e => simp [Unrecovered]
    | ok time => cases printMoment l .date none m <;> simp [Unrecovered, Except.map]
  | null | bool b | float x => exact iff_of_false not_unrecovered_ok id
  | _ => exact iff_of_false (not_unrecovered_writtenText _) id

theorem unrecovered_argumentText_iff {l : Locale} {values : Bundle} {name raw : String} :
    Unrecovered (argumentText l values name raw) ↔
      ∃ v, Entries.get? values name = some v ∧ LacksPart l v := by
  unfold argumentText
  cases Entries.get? values name with
  | none => simp [Unrecovered]
  | some v => simp [unrecovered_valueText_iff]

/-! ## Faults that are always recovered -/

theorem isRecovered_of_require {name : String} {values : Bundle} {e : RenderFault}
    (h : require name values = .error e) : e.isRecovered = true := by
  unfold require at h
  split at h <;> cases h <;> rfl

theorem isRecovered_of_toDecimal {name : String} {v : Value} {e : RenderFault}
    (h : toDecimal name v = .error e) : e.isRecovered = true := by
  unfold toDecimal at h
  split at h
  · cases h; rfl
  · cases h
  · cases h
  · split at h
    · rename_i e' he
      cases h
      exact isRecovered_of_writtenText he
    · split at h <;> cases h
      rfl

theorem isRecovered_of_findExact {x : Decimal} {selectors : List String} {e : RenderFault}
    (h : findExact x selectors = .error e) : e.isRecovered = true := by
  fun_induction findExact x selectors with
  | case1 => cases h
  | case2 s ss hs ih => exact ih h
  | case3 s ss cs hs hr => cases h; rfl
  | case4 s ss cs hs d hr e' he => cases h; rfl
  | case5 s ss cs hs d hr he => cases h
  | case6 s ss cs hs d hr he ih => exact ih h

theorem isRecovered_of_choosePlural {l : Locale} {offset : Nat} {ordinal : Bool}
    {selectors : List String} {x : Decimal} {e : RenderFault}
    (h : choosePlural l offset ordinal selectors x = .error e) : e.isRecovered = true := by
  unfold choosePlural at h
  split at h
  · rename_i e' he
    cases h
    exact isRecovered_of_findExact he
  · obtain ⟨e', -, rfl⟩ := Outcome.mapError_eq_error_iff.1 (Outcome.map_eq_error_iff.1 h)
    rfl
  · split at h
    · cases h; rfl
    · simp only at h
      split at h <;> cases h
      rfl

theorem isRecovered_of_printNumber {l : Locale} {currency style : Option String} {x : Decimal}
    {e : RenderFault} (h : printNumber l currency style x = .error e) : e.isRecovered = true := by
  have hnumber : ∀ {r : Except NumberFault String}, r.mapError .number = .error e →
      e.isRecovered = true := by
    intro r hr
    obtain ⟨e', -, rfl⟩ := Outcome.mapError_eq_error_iff.1 hr
    rfl
  unfold printNumber printSkeleton NumberPrinter.printSkeleton at h
  split at h
  · exact hnumber h
  · repeat' split at h
    all_goals first | exact hnumber h | (cases h; rfl)

/-! ## Rendering -/

section Rendering

variable (l : Locale) (currency : Option String) (values : Bundle)

/-- Rendering some nodes comes to a node: everything before it is rendered, and the arms that
hold it are chosen. The number is what `#` stands for. -/
inductive Reaches : Option Decimal → List Node → Node → Prop
  | here {pound n ns} : Reaches pound (n :: ns) n
  | later {pound n ns m s} (first : renderNode l currency values pound n = .ok s)
      (rest : Reaches pound ns m) : Reaches pound (n :: ns) m
  | arm {pound name arms ns v s nodes m} (value : require name values = .ok v)
      (text : valueText l v = .ok s)
      (chosen : Entries.get? arms (orOther (Entries.keys arms) s) = some nodes)
      (inner : Reaches pound nodes m) : Reaches pound (.select name arms :: ns) m
  | pluralArm {pound name offset ordinal arms ns v x selector r nodes m}
      (value : require name values = .ok v) (number : toDecimal name v = .ok x)
      (choice : choosePlural l offset ordinal (Entries.keys arms) x = .ok (selector, r))
      (chosen : Entries.get? arms selector = some nodes)
      (inner : Reaches (some r) nodes m) : Reaches pound (.plural name offset ordinal arms :: ns) m

/-- Whether a node fails in a way that is not recovered: a date argument whose value lies beyond
the calendar, or whose style asks for a part that the argument leaves out, or another argument whose
value the locale prints with a pattern that asks for a part that the value lacks. -/
def Node.Escapes : Node → Prop
  | .argument name _ => ∃ v, Entries.get? values name = some v ∧ LacksPart l v
  | .moment kind name style =>
      ∃ v, require name values = .ok v ∧
        (IsBeyondCalendar v ∨ ∃ m, toMoment name v = .ok m ∧ AsksMissing l kind style m)
  | .select name _ => ∃ v, require name values = .ok v ∧ LacksPart l v
  | _ => False

theorem renderArm_eq (pound : Option Decimal) (selector : String)
    (arms : List (String × List Node)) :
    renderArm l currency values pound selector arms =
      (match Entries.get? arms selector with
        | none => .error .noOther
        | some nodes => renderNodes l currency values pound nodes) := by
  induction arms with
  | nil => rw [renderArm, Entries.get?]
  | cons arm arms ih =>
    obtain ⟨s, nodes⟩ := arm
    rw [renderArm, Entries.get?]
    by_cases h : s = selector
    · rw [if_pos h, if_pos h]
    · rw [if_neg h, if_neg h, ih]

theorem unrecovered_both_iff {a b : Except RenderFault String} :
    Unrecovered (both a b) ↔ Unrecovered a ∨ (∃ s, a = .ok s) ∧ Unrecovered b := by
  cases a <;> cases b <;> simp [both, Unrecovered]

theorem unrecovered_moment_iff {pound : Option Decimal} {kind : DateKind} {name : String}
    {style : Option String} :
    Unrecovered (renderNode l currency values pound (.moment kind name style)) ↔
      (Node.moment kind name style).Escapes l values := by
  rw [renderNode, Node.Escapes]
  cases hv : require name values with
  | error e => simp [Unrecovered, isRecovered_of_require hv]
  | ok v =>
    cases hm : toMoment name v with
    | error e =>
      have hdate : ∀ c, e ≠ .date (.missingPart c) := by
        rintro c rfl
        exact toMoment_ne_date name v _ hm
      have hcal : (.error e : Except RenderFault Moment) = .error (.epoch .calendar) ↔
          IsBeyondCalendar v := by
        rw [← hm, toMoment_eq_calendar_iff]
      simpa [unrecovered_iff, hdate, hm] using hcal
    | ok m =>
      have hcal : ¬IsBeyondCalendar v := by
        intro h
        rw [toMoment_eq_calendar_iff.2 h] at hm
        cases hm
      simp [hcal, hm, unrecovered_printMoment_iff]

theorem reaches_of_singleton {pound : Option Decimal} {n m : Node} {ns : List Node}
    (h : Reaches l currency values pound [n] m) : Reaches l currency values pound (n :: ns) m := by
  cases h with
  | here => exact .here
  | later first rest => cases rest
  | arm value text chosen inner => exact .arm value text chosen inner
  | pluralArm value number choice chosen inner => exact .pluralArm value number choice chosen inner

mutual

theorem exists_reaches (pound : Option Decimal) (ns : List Node)
    (h : Unrecovered (renderNodes l currency values pound ns)) :
    ∃ n, Reaches l currency values pound ns n ∧ n.Escapes l values := by
  match ns with
  | [] => simp [renderNodes, Unrecovered] at h
  | n :: ns =>
    rw [renderNodes, unrecovered_both_iff] at h
    rcases h with h | ⟨⟨s, hs⟩, h⟩
    · obtain ⟨m, hm, hesc⟩ := exists_reaches_node pound n h
      exact ⟨m, reaches_of_singleton l currency values hm, hesc⟩
    · obtain ⟨m, hm, hesc⟩ := exists_reaches pound ns h
      exact ⟨m, .later hs hm, hesc⟩

theorem exists_reaches_node (pound : Option Decimal) (n : Node)
    (h : Unrecovered (renderNode l currency values pound n)) :
    ∃ m, Reaches l currency values pound [n] m ∧ m.Escapes l values := by
  match n with
  | .text s => simp [renderNode, Unrecovered] at h
  | .argument name raw =>
    rw [renderNode] at h
    exact ⟨_, .here, unrecovered_argumentText_iff.1 h⟩
  | .pound =>
    obtain ⟨e, he, hrec⟩ := h
    simp only [renderNode] at he
    split at he
    · cases he
    · obtain ⟨e', -, rfl⟩ := Outcome.mapError_eq_error_iff.1 he
      cases hrec
  | .number name style =>
    obtain ⟨e, he, hrec⟩ := h
    have htrue : e.isRecovered = true := by
      rw [renderNode] at he
      split at he
      · rename_i e' hv
        cases he
        exact isRecovered_of_require hv
      · split at he
        · rename_i e' hd
          cases he
          exact isRecovered_of_toDecimal hd
        · exact isRecovered_of_printNumber he
    simp [htrue] at hrec
  | .moment kind name style =>
    exact ⟨_, .here, (unrecovered_moment_iff l currency values).1 h⟩
  | .select name arms =>
    rw [renderNode] at h
    cases hv : require name values with
    | error e =>
      simp only [hv] at h
      exact absurd h (not_unrecovered_error (isRecovered_of_require hv))
    | ok v =>
      cases ht : valueText l v with
      | error e =>
        simp only [hv, ht] at h
        exact ⟨_, .here, v, hv, unrecovered_valueText_iff.1 (ht ▸ h)⟩
      | ok s =>
        simp only [hv, ht, renderArm_eq] at h
        cases hget : Entries.get? arms (orOther (Entries.keys arms) s) with
        | none =>
          rw [hget] at h
          exact absurd h (not_unrecovered_error rfl)
        | some nodes =>
          rw [hget] at h
          obtain ⟨m, hm, hesc⟩ :=
            exists_reaches_arms arms _ nodes (Entries.mem_of_get? hget) pound h
          exact ⟨m, .arm hv ht hget hm, hesc⟩
  | .plural name offset ordinal arms =>
    rw [renderNode] at h
    cases hv : require name values with
    | error e =>
      simp only [hv] at h
      exact absurd h (not_unrecovered_error (isRecovered_of_require hv))
    | ok v =>
      cases hx : toDecimal name v with
      | error e =>
        simp only [hv, hx] at h
        exact absurd h (not_unrecovered_error (isRecovered_of_toDecimal hx))
      | ok x =>
        cases hc : choosePlural l offset ordinal (Entries.keys arms) x with
        | error e =>
          simp only [hv, hx, hc] at h
          exact absurd h (not_unrecovered_error (isRecovered_of_choosePlural hc))
        | ok choice =>
          obtain ⟨selector, r⟩ := choice
          simp only [hv, hx, hc, renderArm_eq] at h
          cases hget : Entries.get? arms selector with
          | none =>
            rw [hget] at h
            exact absurd h (not_unrecovered_error rfl)
          | some nodes =>
            rw [hget] at h
            obtain ⟨m, hm, hesc⟩ :=
              exists_reaches_arms arms _ nodes (Entries.mem_of_get? hget) (some r) h
            exact ⟨m, .pluralArm hv hx hc hget hm, hesc⟩

theorem exists_reaches_arms (arms : List (String × List Node)) (selector : String)
    (nodes : List Node) (hmem : (selector, nodes) ∈ arms) (pound : Option Decimal)
    (h : Unrecovered (renderNodes l currency values pound nodes)) :
    ∃ n, Reaches l currency values pound nodes n ∧ n.Escapes l values := by
  match arms, hmem with
  | (s, ns) :: rest, hmem =>
    rcases List.mem_cons.1 hmem with heq | hrest
    · obtain ⟨rfl, rfl⟩ := Prod.ext_iff.1 heq
      exact exists_reaches pound _ h
    · exact exists_reaches_arms rest selector nodes hrest pound h

end

theorem unrecovered_of_reaches {pound : Option Decimal} {ns : List Node} {n : Node}
    (h : Reaches l currency values pound ns n) (hesc : n.Escapes l values) :
    Unrecovered (renderNodes l currency values pound ns) := by
  induction h with
  | here =>
    rename_i pound n ns
    rw [renderNodes, unrecovered_both_iff]
    left
    cases n with
    | argument name raw =>
      rw [renderNode]
      exact unrecovered_argumentText_iff.2 hesc
    | moment kind name style => exact (unrecovered_moment_iff l currency values).2 hesc
    | select name arms =>
      obtain ⟨v, hv, hlacks⟩ := hesc
      obtain ⟨e, he, hrec⟩ := unrecovered_valueText_iff.2 hlacks
      rw [renderNode]
      simp only [hv, he]
      exact ⟨e, rfl, hrec⟩
    | _ => exact hesc.elim
  | later first rest ih =>
    rw [renderNodes, unrecovered_both_iff]
    exact .inr ⟨⟨_, first⟩, ih hesc⟩
  | arm value text chosen inner ih =>
    rw [renderNodes, unrecovered_both_iff, renderNode]
    simp only [value, text, renderArm_eq, chosen]
    exact .inl (ih hesc)
  | pluralArm value number choice chosen inner ih =>
    rw [renderNodes, unrecovered_both_iff, renderNode]
    simp only [value, number, choice, renderArm_eq, chosen]
    exact .inl (ih hesc)

/-- Rendering fails in a way that is not recovered exactly when it comes to a node that does. -/
theorem unrecovered_renderNodes_iff (pound : Option Decimal) (ns : List Node) :
    Unrecovered (renderNodes l currency values pound ns) ↔
      ∃ n, Reaches l currency values pound ns n ∧ n.Escapes l values :=
  ⟨exists_reaches l currency values pound ns,
    fun ⟨_, hn, hesc⟩ => unrecovered_of_reaches l currency values hn hesc⟩

end Rendering

/-! ## Failures -/

/-- Whether a message cannot be parsed or, with some values, not be rendered. -/
def Fails (l : Locale) (currency : Option String) (message : String) (values : Bundle) : Prop :=
  (∃ e, parse message = .error e) ∨
    ∃ nodes e, parse message = .ok nodes ∧ Template.render ⟨nodes, l, currency⟩ values = .error e

/-- Whether formatting a message with some values fails in a way that is not recovered. In a
message of text and simple arguments, a value that has no text does so, be it for its digits or for
the patterns of the locale; in any other message, an offset with too many digits, or a node that
rendering comes to. -/
def Escapes (l : Locale) (currency : Option String) (message : String) (values : Bundle) : Prop :=
  if isInterpolation message = true then
    ∃ name raw v, .placeholder name raw ∈ segments message.toList ∧
      Entries.get? values (String.ofList name) = some v ∧
      (v.isWritable = false ∨ IsUnprintable l v)
  else
    (∃ digits position, parse message = .error ⟨.offsetTooLong digits, position⟩) ∨
      ∃ nodes n, parse message = .ok nodes ∧ Reaches l currency values none nodes n ∧
        n.Escapes l values

theorem mapM_eq_error_iff {ε α β : Type} {f : α → Except ε β} {xs : List α} :
    (∃ e, xs.mapM f = .error e) ↔ ∃ x ∈ xs, ∃ e, f x = .error e := by
  induction xs with
  | nil => simp [pure, Except.pure]
  | cons x xs ih =>
    rw [List.mapM_cons]
    cases hx : f x with
    | error e => simp [bind, Except.bind, hx]
    | ok b =>
      simp only [bind, Except.bind, List.mem_cons, exists_eq_or_imp, hx, reduceCtorEq,
        exists_false, false_or, ← ih]
      cases xs.mapM f <;> simp [pure, Except.pure]

theorem interpolate_eq_error_iff {l : Locale} {values : Bundle} {message : String} :
    (∃ e, interpolate l values message = .error e) ↔
      ∃ name raw v, .placeholder name raw ∈ segments message.toList ∧
        Entries.get? values (String.ofList name) = some v ∧
        (v.isWritable = false ∨ IsUnprintable l v) := by
  simp only [interpolate, Outcome.map_eq_error_iff, mapM_eq_error_iff]
  constructor
  · rintro ⟨s, hs, e, he⟩
    cases s with
    | char c => cases he
    | placeholder name raw =>
      obtain ⟨v, hv, hnone⟩ := argumentText_eq_error_iff.1 ⟨e, he⟩
      exact ⟨name, raw, v, hs, hv, hnone⟩
  · rintro ⟨name, raw, v, hs, hv, hnone⟩
    exact ⟨_, hs, argumentText_eq_error_iff.2 ⟨v, hv, hnone⟩⟩

theorem isRecovered_fault_eq_false_iff {f : SyntaxFault} :
    f.isRecovered = false ↔ ∃ digits, f = .offsetTooLong digits := by
  cases f <;> simp [SyntaxFault.isRecovered]

theorem not_escapes_empty (l : Locale) (currency : Option String) (values : Bundle) :
    ¬Escapes l currency "" values := by
  have hs : segments "".toList = [] := by rw [String.toList_empty, segments]
  have hi : isInterpolation "" = true := by rw [isInterpolation, hs]; rfl
  rw [Escapes, if_pos hi, hs]
  rintro ⟨name, raw, v, hmem, -⟩
  cases hmem

/-- Formatting fails exactly when a failure escapes. -/
theorem Formatter.IsCoherent.format_eq_error_iff {f : Formatter} (hf : f.IsCoherent)
    (message : String) (values : Bundle) :
    (∃ e, (f.format message values).result = .error e) ↔
      Escapes f.locale f.currency message values := by
  rw [hf.format_result]
  by_cases hm : message = ""
  · simp [hm, not_escapes_empty]
  by_cases hi : isInterpolation message = true
  · rw [if_neg hm, if_pos hi, Escapes, if_pos hi, Outcome.exists_mapError_eq_error_iff]
    exact interpolate_eq_error_iff
  rw [if_neg hm, if_neg hi, Escapes, if_neg hi]
  cases hp : parse message with
  | error e =>
    obtain ⟨fault, position⟩ := e
    by_cases hr : fault.isRecovered = true
    · have hne : ∀ digits, fault ≠ .offsetTooLong digits := by
        rintro digits rfl
        cases hr
      simp [hr, hne]
    · obtain ⟨digits, rfl⟩ := isRecovered_fault_eq_false_iff.1 (by simpa using hr)
      simp [SyntaxFault.isRecovered]
  | ok nodes =>
    have hiff := unrecovered_renderNodes_iff f.locale f.currency values none nodes
    simp only [reduceCtorEq, exists_false, false_or, Except.ok.injEq, exists_and_left,
      exists_eq_left']
    rw [← hiff, Template.render, Unrecovered]
    cases renderNodes f.locale f.currency values none nodes with
    | ok s => simp
    | error e =>
      by_cases hr : e.isRecovered = true <;> simp [hr]

/-- A message that cannot be parsed or rendered comes back unchanged, if it comes back. -/
theorem Formatter.IsCoherent.eq_of_fails {f : Formatter} (hf : f.IsCoherent) {message s : String}
    {values : Bundle} (h : (f.format message values).result = .ok s)
    (hfails : Fails f.locale f.currency message values) : s = message := by
  rw [hf.format_result] at h
  by_cases hm : message = ""
  · rw [if_pos hm] at h
    cases h
    rfl
  by_cases hi : isInterpolation message = true
  · rw [if_neg hm, if_pos hi, Outcome.mapError_eq_ok_iff] at h
    have hp := parse_of_isInterpolation hi
    rcases hfails with ⟨e, he⟩ | ⟨nodes, e, hnodes, he⟩
    · rw [hp] at he
      cases he
    · rw [hp, Except.ok.injEq] at hnodes
      subst hnodes
      rw [Template.render, renderNodes_segments] at he
      rw [interpolate, he] at h
      cases h
  rw [if_neg hm, if_neg hi] at h
  rcases hfails with ⟨e, he⟩ | ⟨nodes, e, hnodes, he⟩
  · simp only [he] at h
    split at h <;> cases h
    rfl
  · simp only [hnodes, he] at h
    split at h <;> cases h
    rfl

/-! ## Translation -/

/-- Translating a key fails exactly when its message is formatted and a failure escapes. -/
theorem translate_eq_error_iff {v : View} (hv : v.formatter.IsCoherent) (main key : String)
    (values : Bundle) :
    (∃ e, (v.translate main key values).result = .error e) ↔
      ∃ m, v.message? main key = some m ∧ values ≠ [] ∧
        Escapes v.formatter.locale v.formatter.currency m values := by
  unfold View.translate
  cases v.message? main key with
  | none =>
    simp only
    split <;> simp
  | some m =>
    by_cases hvalues : values = []
    · simp [hvalues]
    · simp [hvalues, Outcome.exists_mapError_eq_error_iff, ← hv.format_eq_error_iff]

/-! ## The main result -/

/-- Formatting fails exactly when a failure escapes, and so does translating a key whose message
is formatted. A message that cannot be parsed or rendered otherwise comes back unchanged. -/
theorem format_fails_iff_escapes {f : Formatter} (hf : f.Reachable) (message : String)
    (values : Bundle) :
    ((∃ e, (f.format message values).result = .error e) ↔
      Escapes f.locale f.currency message values) ∧
    (∀ s, (f.format message values).result = .ok s →
      Fails f.locale f.currency message values → s = message) ∧
    ∀ v : View, v.formatter = f → ∀ main key,
      ((∃ e, (v.translate main key values).result = .error e) ↔
        ∃ m, v.message? main key = some m ∧ values ≠ [] ∧
          Escapes f.locale f.currency m values) := by
  have hcoh := hf.isCoherent
  refine ⟨hcoh.format_eq_error_iff message values, fun s hs => hcoh.eq_of_fails hs, ?_⟩
  intro v hv main key
  subst hv
  exact translate_eq_error_iff hcoh main key values

/-- A date has no hours, and asking for them is not recovered. -/
theorem toBool_format_hours :
    ((Formatter.create "en" none none).format "\x7bd, date, HH:mm\x7d"
      [("d", .date ⟨2025, 12, 27⟩)]).result.toBool = false := by
  decide +kernel

theorem escapes_hours :
    (Formatter.create "en" none none).Reachable ∧
      Escapes (Locale.resolve "en") none "\x7bd, date, HH:mm\x7d"
        [("d", .date ⟨2025, 12, 27⟩)] ∧
      ∃ e, ((View.create "en" (some [("k", .text "\x7bd, date, HH:mm\x7d")])
        (.create "en" none none) none).translate "en" "k"
          [("d", .date ⟨2025, 12, 27⟩)]).result = .error e := by
  have hf : (Formatter.create "en" none none).Reachable := .create "en" none none .known
  obtain ⟨hformat, -, htranslate⟩ := format_fails_iff_escapes hf "\x7bd, date, HH:mm\x7d"
    [("d", .date ⟨2025, 12, 27⟩)]
  have hescapes := hformat.1 (Outcome.exists_error_of_toBool toBool_format_hours)
  exact ⟨hf, hescapes, (htranslate _ rfl "en" "k").2 ⟨_, rfl, by simp, hescapes⟩⟩

theorem format_can_fail :
    ¬∀ f : Formatter, f.Reachable → ∀ message values,
      ∃ s, (f.format message values).result = .ok s := by
  intro h
  obtain ⟨s, hs⟩ := h (.create "en" none none) (.create "en" none none .known)
    "\x7bd, date, HH:mm\x7d" [("d", .date ⟨2025, 12, 27⟩)]
  obtain ⟨e, he⟩ := Outcome.exists_error_of_toBool toBool_format_hours
  rw [he] at hs
  cases hs

end Polyglot.Message
