import Polyglot.Locale.Date
import Polyglot.Proofs.Outcome

/-!
# Missing parts

A date pattern cannot be printed when it asks a day for a part of the time, or a time for a
part of the day. This is the only way in which a part is missing: the first such field that
printing comes to decides. A moment with both parts lacks nothing.
-/
namespace Polyglot.DatePattern

/-- Whether a field asks for a part that the subject lacks. The day of the year and the week of
a time fail in a way of their own. -/
def asksMissing (s : Subject) (letter : Char) : Bool :=
  letter != 'g' &&
    if isDateLetter letter then s.date.isNone && letter != 'D' && letter != 'w'
    else !isOffsetLetter letter && s.clock.isNone

/-! ## Fields -/

theorem name_ne_missingPart (letter c : Char) (names : List String) (k : Nat) :
    name letter names k ≠ .error (.missingPart c) := by
  unfold name
  split <;> simp

theorem dateField_ne_missingPart (cal : CalendarData) (week : WeekRule) (letter c : Char)
    (count : Nat) (d : Date) : dateField cal week letter count d ≠ .error (.missingPart c) := by
  have helim : ∀ {α : Type} (o : Option α) (f : α → List Char),
      o.elim (.error .yearOutOfRange) (fun x => .ok (f x)) ≠
        (.error (.missingPart c) : Except DateFault (List Char)) := by
    intro α o f
    cases o <;> simp
  have hname := name_ne_missingPart letter c
  unfold dateField
  split <;> (repeat' split) <;> first | exact hname _ _ | exact helim _ _ | simp

theorem clockField_ne_missingPart (cal : CalendarData) (letter c : Char) (count : Nat)
    (clock : Clock) : clockField cal letter count clock ≠ .error (.missingPart c) := by
  have hname := name_ne_missingPart letter c
  unfold clockField halfName fractionDigits
  split <;> (repeat' split) <;> first | exact hname _ _ | simp

/-- A field fails for a missing part exactly when it asks for one. -/
theorem field_eq_missingPart_iff {cal : CalendarData} {week : WeekRule} {letter c : Char}
    {count : Nat} {s : Subject} :
    field cal week letter count s = .error (.missingPart c) ↔
      asksMissing s letter = true ∧ letter = c := by
  unfold field asksMissing
  by_cases hg : letter = 'g'
  · have hne : (letter != 'g') = false := bne_eq_false_iff_eq.2 hg
    rw [if_pos hg, hne, Bool.false_and]
    simp
  by_cases hd : isDateLetter letter = true
  · cases hs : s.date with
    | none =>
      by_cases hk : letter = 'D' ∨ letter = 'w'
      · have hfalse : (letter != 'D' && letter != 'w') = false := by
          rcases hk with hk | hk <;> simp [hk]
        rw [if_neg hg, if_pos hd, if_pos hk, if_pos hd, Option.isNone_none, Bool.true_and, hfalse]
        simp
      · rw [not_or] at hk
        simp [hg, hd, hk.1, hk.2]
    | some d => simp [hg, hd, dateField_ne_missingPart]
  by_cases ho : isOffsetLetter letter = true
  · simp [hg, hd, ho]
  cases hs : s.clock with
  | none => simp [hg, hd, ho]
  | some clock =>
    by_cases hz : isZoneLetter letter = true
    · simp [hg, hd, ho, hz]
    · simp [hg, hd, ho, hz, clockField_ne_missingPart]

/-! ## Patterns -/

/-- Printing tokens fails for a missing part exactly when it comes to a field that asks for
one. -/
theorem render_eq_missingPart_iff {cal : CalendarData} {week : WeekRule} {s : Subject} {c : Char}
    {ts : List DateToken} :
    render cal week s ts = .error (.missingPart c) ↔
      ∃ before count after out, ts = before ++ .field c count :: after ∧
        render cal week s before = .ok out ∧ asksMissing s c = true := by
  constructor
  · intro h
    fun_induction render cal week s ts with
    | case1 => simp at h
    | case2 cs ts ih =>
      rw [Outcome.map_eq_error_iff] at h
      obtain ⟨before, count, after, out, rfl, hout, hask⟩ := ih h
      exact ⟨.literal cs :: before, count, after, cs ++ out, rfl,
        by simp [render, hout, Except.map], hask⟩
    | case3 letter count ts e he =>
      cases h
      obtain ⟨hask, rfl⟩ := field_eq_missingPart_iff.1 he
      exact ⟨[], count, ts, [], rfl, rfl, hask⟩
    | case4 letter count ts cs hcs ih =>
      rw [Outcome.map_eq_error_iff] at h
      obtain ⟨before, n, after, out, rfl, hout, hask⟩ := ih h
      exact ⟨.field letter count :: before, n, after, cs ++ out, rfl,
        by simp [render, hcs, hout, Except.map], hask⟩
  · rintro ⟨before, count, after, out, rfl, hout, hask⟩
    induction before generalizing out with
    | nil =>
      have hf : field cal week c count s = .error (.missingPart c) :=
        field_eq_missingPart_iff.2 ⟨hask, rfl⟩
      simp [render, hf]
    | cons t ts ih =>
      cases t with
      | literal cs =>
        rw [render, Outcome.map_eq_ok_iff] at hout
        obtain ⟨rest, hrest, -⟩ := hout
        rw [List.cons_append, render, Outcome.map_eq_error_iff]
        exact ih rest hrest
      | field letter n =>
        rw [render] at hout
        cases hf : field cal week letter n s with
        | error e => simp [hf] at hout
        | ok cs =>
          rw [hf] at hout
          obtain ⟨rest, hrest, -⟩ := Outcome.map_eq_ok_iff.1 hout
          rw [List.cons_append, render, hf]
          exact Outcome.map_eq_error_iff.2 (ih rest hrest)

theorem parse_ne_missingPart (pattern : String) (c : Char) :
    parse pattern ≠ .error (.missingPart c) := by
  unfold parse
  simp only
  split
  · rename_i e he
    obtain ⟨t, -, ht⟩ := List.exists_of_findSome?_eq_some he
    split at ht
    · split at ht
      · simp at ht
      · cases ht
        simp
    · simp at ht
  · simp

/-- Printing with a pattern fails for a missing part exactly when the pattern can be read and
printing comes to a field that asks for one. -/
theorem print_eq_missingPart_iff {cal : CalendarData} {week : WeekRule} {pattern : String}
    {s : Subject} {c : Char} :
    print cal week pattern s = .error (.missingPart c) ↔
      ∃ before count after out, parse pattern = .ok (before ++ .field c count :: after) ∧
        render cal week s before = .ok out ∧ asksMissing s c = true := by
  unfold print
  cases hp : parse pattern with
  | error e =>
    have hne := parse_ne_missingPart pattern c
    rw [hp] at hne
    simpa using fun h => hne (congrArg _ h)
  | ok ts =>
    simp only [Outcome.map_eq_error_iff, render_eq_missingPart_iff, Except.ok.injEq]

theorem asksMissing_ofMoment (m : Moment) (c : Char) : asksMissing (.ofMoment m) c = false := by
  simp [asksMissing, Subject.ofMoment]

/-- A moment with both parts lacks nothing. -/
theorem print_ofMoment_ne_missingPart (cal : CalendarData) (week : WeekRule) (pattern : String)
    (m : Moment) (c : Char) : print cal week pattern (.ofMoment m) ≠ .error (.missingPart c) := by
  intro h
  obtain ⟨before, count, after, out, -, -, hask⟩ := print_eq_missingPart_iff.1 h
  simp [asksMissing_ofMoment] at hask

/-! ## Locales -/

/-- Whether a pattern asks in a locale for a part that the subject lacks: the pattern can be read,
and printing comes to a field of such a part. -/
def AsksMissing (l : Locale) (pattern : String) (s : Subject) : Prop :=
  ∃ before letter count after out,
    parse pattern = .ok (before ++ .field letter count :: after) ∧
      render l.data.calendar l.week s before = .ok out ∧ asksMissing s letter = true

theorem printDate_missingPart_iff {l : Locale} {pattern : String} {s : Subject} :
    (∃ c, l.printDate pattern s = .error (.missingPart c)) ↔ AsksMissing l pattern s := by
  simp only [Locale.printDate, print_eq_missingPart_iff, AsksMissing]
  exact exists_comm

theorem ofSkeleton_ne_missingPart (cal : CalendarData) (skeleton : String) (c : Char) :
    ofSkeleton cal skeleton ≠ .error (.missingPart c) := by
  unfold ofSkeleton
  split
  · simp
  · split <;> simp

theorem skeleton_ne_missingPart (l : Locale) (skeleton : String) (m : Moment) (c : Char) :
    l.skeleton skeleton m ≠ .error (.missingPart c) := by
  unfold Locale.skeleton
  cases h : ofSkeleton l.data.calendar skeleton with
  | error e =>
    intro he
    exact ofSkeleton_ne_missingPart l.data.calendar skeleton c (h.trans he)
  | ok pattern => exact print_ofMoment_ne_missingPart l.data.calendar l.week pattern m c

end Polyglot.DatePattern
