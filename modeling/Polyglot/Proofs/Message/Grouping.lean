import Polyglot.Proofs.Entries
import Polyglot.Proofs.Message.Skeleton
import Polyglot.Proofs.Number.Pattern

/-!
# Numbers without groups

A token of a skeleton asks for digits without marks between groups of them. The patterns that are
built for a skeleton follow it. An amount of money or a percentage with no token for its fraction
is printed with the pattern of the locale instead, as if there were no such token. Of what prints
the numbers it is assumed that it groups digits as its patterns say, and this is shown of locales
whose data is known.
-/
namespace Polyglot.Message

open NumberPattern

/-! ## What is settled -/

def skeletonOf (ts : List String) : Skeleton := (tokensOf ts).foldl Skeleton.settle .default

/-- Whether an aspect is settled; the factor is not kept. -/
def Skeleton.settles (k : Skeleton) : Aspect → Bool
  | .percent => k.percent
  | .currency => k.currency.isSome
  | .precision => k.fraction.isSome
  | .compact => k.compact.isSome
  | .grouping => !k.grouped
  | .scale => false

section Settled

variable {ts : List String} {a : Aspect}

theorem Skeleton.settles_settle (ha : a ≠ .scale) (k : Skeleton) (t : SkeletonToken) :
    (k.settle t).settles a = (k.settles a || a == t.aspect) := by
  cases a <;> cases t <;>
    simp_all [Skeleton.settles, Skeleton.settle, SkeletonToken.aspect]

theorem settles_skeletonOf (ha : a ≠ .scale) :
    (skeletonOf ts).settles a = true ↔ a ∈ aspects ts := by
  have hfold (tokens : List SkeletonToken) (k : Skeleton) :
      (tokens.foldl Skeleton.settle k).settles a =
        (k.settles a || (tokens.map SkeletonToken.aspect).contains a) := by
    induction tokens generalizing k with
    | nil => simp
    | cons t r ih =>
      rw [List.foldl_cons, ih, Skeleton.settles_settle ha, List.map_cons, List.contains_cons,
        Bool.or_assoc]
  have hdefault : Skeleton.default.settles a = false := by cases a <;> rfl
  rw [skeletonOf, hfold, hdefault, Bool.false_or, aspects, List.contains_iff_mem]

/-- What holds at first, and after each token of a skeleton, holds at last. -/
theorem skeletonOf_induction {P : Skeleton → Prop} (hdefault : P .default)
    (hsettle : ∀ k t, t ∈ tokensOf ts → P k → P (k.settle t)) : P (skeletonOf ts) :=
  List.foldlRecOn (tokensOf ts) Skeleton.settle hdefault fun k hk t ht => hsettle k t ht hk

theorem mem_tokensOf_of_currency {code : String} (h : (skeletonOf ts).currency = some code) :
    .currency code ∈ tokensOf ts := by
  refine skeletonOf_induction (P := fun k => k.currency = some code → .currency code ∈ tokensOf ts)
    nofun (fun k t ht hk => ?_) h
  cases t with
  | currency other =>
    intro hother
    obtain rfl := Option.some.inj hother
    exact ht
  | _ => exact hk

/-- The text of a token for the fraction. -/
theorem isFraction_of_mem_tokensOf {digits : String} (h : .fraction digits ∈ tokensOf ts) :
    isFraction digits.toList = true := by
  obtain ⟨t, -, ht⟩ := List.mem_filterMap.1 h
  unfold SkeletonToken.ofText? at ht
  repeat' split at ht
  all_goals simp_all

theorem isFraction_skeletonOf {f : String} (h : (skeletonOf ts).fraction = some f) :
    IsFraction f.toList := by
  refine skeletonOf_induction (P := fun k => k.fraction = some f → IsFraction f.toList)
    nofun (fun k t ht hk => ?_) h
  cases t with
  | wholeOnly =>
    intro hwhole
    obtain rfl := Option.some.inj hwhole
    exact .inl rfl
  | fraction digits =>
    intro hdigits
    obtain rfl := Option.some.inj hdigits
    have hfraction := isFraction_of_mem_tokensOf ht
    unfold isFraction at hfraction
    split at hfraction
    · rename_i ds hds
      exact .inr ⟨ds, hds, fun c hc => by simpa using List.all_eq_true.1 hfraction c hc⟩
    · cases hfraction
  | _ => exact hk

end Settled

/-! ## The pattern of a style -/

/-- The pattern that a style prints a number with. Compact numbers have more than one. -/
def NumberPrinter.pattern? (b : NumberPrinter) : NumberStyle → Option String
  | .plain p => some (p.getD b.decimalPattern)
  | .percent p => some (p.getD b.percentPattern)
  | .money _ => some b.currencyPattern
  | .moneyWith p _ => some p
  | .compact _ _ => none

def NumberStyle.currency? : NumberStyle → Option String
  | .money code => some code
  | .moneyWith _ code => some code
  | _ => none

/-- Whether a text is a pattern whose groups are wider than any number. -/
def IsUngrouped (source : String) : Prop :=
  (NumberPattern.parse source).map NumberPattern.groups = .ok (wideGroup, wideGroup)

instance (source : String) : Decidable (IsUngrouped source) :=
  inferInstanceAs (Decidable (_ = _))

/-- Whether a currency has no mark between groups of digits in its symbol. -/
def NumberPrinter.IsPlainSymbol (b : NumberPrinter) (code : String) : Prop :=
  (b.currencySymbol code).toList.Disjoint b.groupMark.toList

/-- Whether numbers are grouped as their pattern says: with one digit and a fraction, between a sign
of the currency and one for a percentage, no mark between groups of digits is printed, unless the
symbol of the currency has one. -/
def NumberPrinter.GroupsByPattern (b : NumberPrinter) : Prop :=
  ∀ (style : NumberStyle) (s : PlainSource) (x : Decimal) (text : String),
    b.pattern? style = some (String.ofList s.chars) →
    (∀ code, style.currency? = some code → b.IsPlainSymbol code) →
    b.print style x = .ok text → ¬ b.groupMark.toList <:+: text.toList

/-- Whether a skeleton has numbers printed with a pattern without groups. -/
def NumberPrinter.ChoosesUngrouped (b : NumberPrinter) (ts : List String) : Prop :=
  ∃ source, b.pattern? (skeletonOf ts).style = some source ∧ IsUngrouped source

/-- Whether the tokens of a skeleton are printed with a pattern of their own, in which groups can be
left out. An amount of money or a percentage needs a token for its fraction. -/
def HonoursUngrouped (ts : List String) : Prop :=
  .precision ∈ aspects ts ∨ .currency ∉ aspects ts ∧ .percent ∉ aspects ts

instance (ts : List String) : Decidable (HonoursUngrouped ts) :=
  inferInstanceAs (Decidable (_ ∨ _ ∧ _))

/-- Whether no currency of a skeleton has a mark between groups of digits in its symbol. -/
def NumberPrinter.HasPlainSymbols (b : NumberPrinter) (ts : List String) : Prop :=
  ∀ code, .currency code ∈ tokensOf ts → b.IsPlainSymbol code

/-- The tokens of a skeleton but those that ask for digits without groups. -/
def withoutUngrouped (ts : List String) : List String :=
  ts.filter fun t => SkeletonToken.ofText? t != some .ungrouped

section Style

variable {ts : List String}

theorem honoursUngrouped_iff :
    HonoursUngrouped ts ↔
      (skeletonOf ts).fraction.isSome = true ∨
        (skeletonOf ts).currency = none ∧ (skeletonOf ts).percent = false := by
  have hsettles {a : Aspect} (ha : a ≠ .scale) :
      a ∉ aspects ts ↔ (skeletonOf ts).settles a = false := by
    rw [← settles_skeletonOf ha, Bool.not_eq_true]
  rw [HonoursUngrouped, ← settles_skeletonOf (by decide), hsettles (by decide),
    hsettles (by decide), Skeleton.settles, Skeleton.settles, Skeleton.settles,
    Option.isSome_eq_false_iff, Option.isNone_iff_eq_none]

theorem compact_eq_none (h : .compact ∉ aspects ts) : (skeletonOf ts).compact = none := by
  rw [← settles_skeletonOf (by decide)] at h
  simpa [Skeleton.settles] using h

theorem grouped_eq_false (h : .grouping ∈ aspects ts) : (skeletonOf ts).grouped = false := by
  rw [← settles_skeletonOf (by decide)] at h
  simpa [Skeleton.settles] using h

/-- Where groups can be left out, a number is printed with one digit and the fraction, between a
sign of the currency and one for a percentage. -/
theorem exists_plain_of_honours (hoff : .grouping ∈ aspects ts) (hcompact : .compact ∉ aspects ts)
    (h : HonoursUngrouped ts) (b : NumberPrinter) :
    ∃ s : PlainSource, b.pattern? (skeletonOf ts).style = some (String.ofList s.chars) := by
  have hoff := grouped_eq_false hoff
  have hcompact := compact_eq_none hcompact
  rw [honoursUngrouped_iff] at h
  have hfraction {f : String} (hf : (skeletonOf ts).fraction = some f) : IsFraction f.toList :=
    isFraction_skeletonOf hf
  generalize skeletonOf ts = k at *
  obtain ⟨currency, percent, compact, fraction, grouped⟩ := k
  simp only at hoff hcompact h hfraction
  subst hoff hcompact
  have hsource {source : String} (s : PlainSource) (hs : source.toList = s.chars) :
      some source = some (String.ofList s.chars) := by
    rw [← hs, String.ofList_toList]
  cases currency with
  | some code =>
    obtain ⟨f, rfl⟩ : ∃ f, fraction = some f := by simpa [Option.isSome_iff_exists] using h
    exact ⟨⟨['¤'], f.toList, [], List.forall_mem_singleton.2 rfl, hfraction rfl,
      List.forall_mem_nil _⟩, hsource _ (by simp [PlainSource.chars, Skeleton.wholePattern])⟩
  | none =>
    cases percent with
    | true =>
      obtain ⟨f, rfl⟩ : ∃ f, fraction = some f := by simpa [Option.isSome_iff_exists] using h
      exact ⟨⟨[], f.toList, ['%'], List.forall_mem_nil _, hfraction rfl,
        List.forall_mem_singleton.2 rfl⟩,
        hsource _ (by simp [PlainSource.chars, Skeleton.wholePattern])⟩
    | false =>
      cases fraction with
      | none =>
        exact ⟨⟨[], [], [], List.forall_mem_nil _, .inl rfl, List.forall_mem_nil _⟩,
          hsource _ (by simp [PlainSource.chars, Skeleton.wholePattern])⟩
      | some f =>
        exact ⟨⟨[], f.toList, [], List.forall_mem_nil _, hfraction rfl, List.forall_mem_nil _⟩,
          hsource _ (by simp [PlainSource.chars, Skeleton.wholePattern])⟩

/-- Without a token for the fraction, an amount of money or a percentage is printed as if groups
had not been left out. -/
theorem style_of_not_honours (hcompact : .compact ∉ aspects ts) (h : ¬ HonoursUngrouped ts)
    (grouped : Bool) :
    ({ skeletonOf ts with grouped := grouped } : Skeleton).style =
      match (skeletonOf ts).currency with
      | some code => .money code
      | none => .percent none := by
  have hcompact := compact_eq_none hcompact
  rw [honoursUngrouped_iff] at h
  generalize skeletonOf ts = k at *
  obtain ⟨currency, percent, compact, fraction, grouped⟩ := k
  obtain ⟨hfraction, hpercent⟩ := not_or.1 h
  obtain rfl : compact = none := hcompact
  obtain rfl : fraction = none := by simpa using hfraction
  cases currency with
  | some code => rfl
  | none =>
    obtain rfl : percent = true := by simpa using hpercent
    rfl

theorem Skeleton.currency_of_style {k : Skeleton} {code : String}
    (h : k.style.currency? = some code) : k.currency = some code := by
  unfold Skeleton.style at h
  split at h
  · cases h
  · split at h
    · rename_i hcurrency _
      rw [hcurrency]
      exact h
    · rename_i hcurrency _
      rw [hcurrency]
      exact h
    · split at h
      · cases h
      · split at h <;> cases h

end Style

/-! ## Printing -/

section Printing

variable {b : NumberPrinter} {ts : List String} {x : Decimal} {text : String}

/-- A number is printed in the style of its skeleton, scaled or not. -/
theorem exists_print_of_printSkeleton (hknown : AreSupported ts)
    (h : b.printSkeleton x ts = .ok text) : ∃ y, b.print (skeletonOf ts).style y = .ok text := by
  rw [NumberPrinter.printSkeleton, Skeleton.collect_eq hknown] at h
  cases hscale : (tokensOf ts).foldlM SkeletonToken.scaled x with
  | error e =>
    rw [hscale] at h
    cases e <;> cases h
  | ok y =>
    rw [hscale] at h
    exact ⟨y, Outcome.mapError_eq_ok_iff.1 h⟩

theorem not_infix_of_honours (hgroups : b.GroupsByPattern) (hknown : AreSupported ts)
    (hoff : .grouping ∈ aspects ts) (hcompact : .compact ∉ aspects ts) (h : HonoursUngrouped ts)
    (hsymbols : b.HasPlainSymbols ts) (htext : b.printSkeleton x ts = .ok text) :
    ¬ b.groupMark.toList <:+: text.toList := by
  obtain ⟨y, hprint⟩ := exists_print_of_printSkeleton hknown htext
  obtain ⟨s, hpattern⟩ := exists_plain_of_honours hoff hcompact h b
  refine hgroups _ s y text hpattern (fun code hcode => ?_) hprint
  exact hsymbols code (mem_tokensOf_of_currency (Skeleton.currency_of_style hcode))

end Printing

/-! ## Printing with known data -/

section Known

variable {l : Locale} {style : NumberStyle} {x : Decimal} {text : String}

/-- Whether a mark of a locale stands in none of its other symbols of numbers. -/
def HasOwnMark (l : Locale) : Prop :=
  ∃ m ∈ l.data.groupMark.toList, IsForeign l.symbols m ∧ isUnit m = false

theorem NumberStyle.print_eq {source : String} (h : (printerOf l).pattern? style = some source) :
    ∃ places, ∀ x, style.print l x = l.printWith source places style.currency? x := by
  cases style <;> cases h <;> exact ⟨_, fun _ => rfl⟩

/-- What a style with a plain pattern prints has no character in it but those of numbers, units and
the currency. -/
theorem NumberStyle.not_mem_print {s : PlainSource}
    (hpattern : (printerOf l).pattern? style = some (String.ofList s.chars)) {m : Char}
    (hm : IsForeign l.symbols m) (hunit : isUnit m = false)
    (hcurrency : ∀ code, style.currency? = some code → m ∉ (l.currencySymbol code).toList)
    (h : style.print l x = .ok text) : m ∉ text.toList := by
  have hnotUnit {cs : List Char} (hcs : ∀ c ∈ cs, isUnit c = true) : m ∉ cs := fun hmem => by
    rw [hcs m hmem] at hunit
    cases hunit
  obtain ⟨places, hprint⟩ := NumberStyle.print_eq hpattern
  obtain ⟨p, hparse, hplain⟩ := s.exists_isPlain
  rw [hprint, Locale.printWith, hparse] at h
  refine hplain.not_mem_apply hm (hnotUnit s.front_units) (hnotUnit s.back_units)
    (fun symbol hsymbol => ?_) (Outcome.mapError_eq_ok_iff.1 h)
  obtain ⟨code, hcode, rfl⟩ := Option.map_eq_some_iff.1 hsymbol
  exact hcurrency code hcode

/-- Locales with a mark of their own group numbers as their patterns say. -/
theorem HasOwnMark.groupsByPattern (h : HasOwnMark l) : (printerOf l).GroupsByPattern := by
  obtain ⟨m, hmark, hforeign, hunit⟩ := h
  intro style s x text hpattern hsymbols hprint hmarks
  refine NumberStyle.not_mem_print hpattern hforeign hunit (fun code hcode hm => ?_) hprint
    (hmarks.subset hmark)
  exact hsymbols code hcode hm hmark

end Known

/-! ## Without the token -/

section Without

variable {ts : List String}

theorem AreSupported.withoutUngrouped (h : AreSupported ts) : AreSupported (withoutUngrouped ts) :=
  fun t ht => h t (List.mem_of_mem_filter ht)

theorem tokensOf_withoutUngrouped (ts : List String) :
    tokensOf (withoutUngrouped ts) = (tokensOf ts).filter (· != .ungrouped) := by
  rw [tokensOf, tokensOf, withoutUngrouped, List.filterMap_filter, List.filter_filterMap]
  refine List.filterMap_congr fun t _ => ?_
  cases SkeletonToken.ofText? t with
  | none => simp
  | some token => by_cases h : token = .ungrouped <;> simp [h, Option.filter]

/-- Without the tokens for it, groups are not left out, and nothing else is settled otherwise. -/
theorem foldl_settle_filter (tokens : List SkeletonToken) (k : Skeleton) (grouped : Bool) :
    (tokens.filter (· != .ungrouped)).foldl Skeleton.settle { k with grouped := grouped } =
      { tokens.foldl Skeleton.settle k with grouped := grouped } := by
  induction tokens generalizing k with
  | nil => rfl
  | cons t r ih =>
    by_cases ht : t = .ungrouped
    · subst ht
      exact ih { k with grouped := false }
    · have hsettle : ({ k with grouped := grouped } : Skeleton).settle t =
          { k.settle t with grouped := grouped } := by
        cases t with
        | ungrouped => exact absurd rfl ht
        | _ => rfl
      rw [List.filter_cons_of_pos (by simpa using ht), List.foldl_cons, List.foldl_cons, hsettle,
        ih]

theorem foldlM_scaled_filter (tokens : List SkeletonToken) (x : Decimal) :
    (tokens.filter (· != .ungrouped)).foldlM SkeletonToken.scaled x =
      tokens.foldlM SkeletonToken.scaled x := by
  induction tokens generalizing x with
  | nil => rfl
  | cons t r ih =>
    by_cases ht : t = .ungrouped
    · subst ht
      exact ih x
    · rw [List.filter_cons_of_pos (by simpa using ht), List.foldlM_cons, List.foldlM_cons]
      simp only [ih]

theorem skeletonOf_withoutUngrouped (ts : List String) :
    skeletonOf (withoutUngrouped ts) = { skeletonOf ts with grouped := true } := by
  rw [skeletonOf, tokensOf_withoutUngrouped]
  exact foldl_settle_filter (tokensOf ts) .default true

/-- The token is ignored where there is no pattern to leave the groups out of. -/
theorem printSkeleton_withoutUngrouped (hknown : AreSupported ts)
    (hcompact : .compact ∉ aspects ts) (h : ¬ HonoursUngrouped ts) (b : NumberPrinter)
    (x : Decimal) : b.printSkeleton x ts = b.printSkeleton x (withoutUngrouped ts) := by
  have hstyle : (skeletonOf (withoutUngrouped ts)).style = (skeletonOf ts).style := by
    rw [skeletonOf_withoutUngrouped, style_of_not_honours hcompact h]
    exact (style_of_not_honours hcompact h (skeletonOf ts).grouped).symm
  rw [NumberPrinter.printSkeleton, NumberPrinter.printSkeleton, Skeleton.collect_eq hknown,
    Skeleton.collect_eq hknown.withoutUngrouped, ← skeletonOf, ← skeletonOf,
    tokensOf_withoutUngrouped, foldlM_scaled_filter]
  cases (tokensOf ts).foldlM SkeletonToken.scaled x with
  | error e => rfl
  | ok y =>
    change (b.print (skeletonOf ts).style y).mapError _ =
      (b.print (skeletonOf (withoutUngrouped ts)).style y).mapError _
    rw [hstyle]

end Without

/-! ## Honouring the token -/

section Honouring

variable {b : NumberPrinter} {ts : List String}

theorem choosesUngrouped_of_honours (hoff : .grouping ∈ aspects ts)
    (hcompact : .compact ∉ aspects ts) (h : HonoursUngrouped ts) (b : NumberPrinter) :
    b.ChoosesUngrouped ts := by
  obtain ⟨s, hpattern⟩ := exists_plain_of_honours hoff hcompact h b
  obtain ⟨p, hparse, hplain⟩ := s.exists_isPlain
  refine ⟨_, hpattern, ?_⟩
  rw [IsUngrouped, hparse]
  exact congrArg Except.ok hplain.groups

/-- The pattern of the locale for amounts of money, if there is a currency, or for percentages. -/
def NumberPrinter.unitPattern (b : NumberPrinter) (ts : List String) : String :=
  if .currency ∈ aspects ts then b.currencyPattern else b.percentPattern

theorem choosesUngrouped_iff_of_not_honours (hcompact : .compact ∉ aspects ts)
    (h : ¬ HonoursUngrouped ts) : b.ChoosesUngrouped ts ↔ IsUngrouped (b.unitPattern ts) := by
  have hstyle : (skeletonOf ts).style = _ :=
    style_of_not_honours hcompact h (skeletonOf ts).grouped
  have hcurrency : .currency ∈ aspects ts ↔ (skeletonOf ts).currency.isSome = true :=
    (settles_skeletonOf (by decide)).symm
  rw [NumberPrinter.ChoosesUngrouped, NumberPrinter.unitPattern, hstyle]
  cases hcode : (skeletonOf ts).currency with
  | some code => simp [hcurrency, hcode, NumberPrinter.pattern?]
  | none => simp [hcurrency, hcode, NumberPrinter.pattern?]

/-- Which skeletons leave out the groups that they are asked to leave out: those with a token for
the fraction, and those of plain numbers. They choose a pattern without groups, and what prints
numbers as its patterns say prints no mark between groups of digits. All others have numbers
printed with the pattern of the locale, groups and all, as they are without the token. -/
theorem printSkeleton_ungrouped (hgroups : b.GroupsByPattern) (hknown : AreSupported ts)
    (hoff : .grouping ∈ aspects ts) (hcompact : .compact ∉ aspects ts) :
    (HonoursUngrouped ts → b.ChoosesUngrouped ts ∧
      ∀ x text, b.HasPlainSymbols ts → b.printSkeleton x ts = .ok text →
        ¬ b.groupMark.toList <:+: text.toList) ∧
    (¬ HonoursUngrouped ts → (b.ChoosesUngrouped ts ↔ IsUngrouped (b.unitPattern ts)) ∧
      ∀ x, b.printSkeleton x ts = b.printSkeleton x (withoutUngrouped ts)) := by
  refine ⟨fun h => ⟨choosesUngrouped_of_honours hoff hcompact h b, fun x text hsymbols htext => ?_⟩,
    fun h => ⟨choosesUngrouped_iff_of_not_honours hcompact h,
      printSkeleton_withoutUngrouped hknown hcompact h b⟩⟩
  exact not_infix_of_honours hgroups hknown hoff hcompact h hsymbols htext

end Honouring

/-- The tokens for an amount of dollars without groups. -/
def dollars : List String := ["currency/USD", "group-off"]

theorem hasOwnMark_english : HasOwnMark .english :=
  ⟨',', by decide +kernel, by decide +kernel, by decide⟩

theorem isPlainSymbol_usd : (printerOf .english).IsPlainSymbol "USD" := by
  have hsymbol : (printerOf .english).currencySymbol "USD" = "$" := by decide +kernel
  have hmark : (printerOf .english).groupMark.toList = [','] := by decide +kernel
  rw [NumberPrinter.IsPlainSymbol, hsymbol, hmark, List.disjoint_singleton]
  decide

theorem hasPlainSymbols_dollars : (printerOf .english).HasPlainSymbols dollars := by
  intro code hcode
  have htokens : tokensOf dollars = [.currency "USD", .ungrouped] := by decide +kernel
  obtain rfl : code = "USD" := by simpa [htokens] using hcode
  exact isPlainSymbol_usd

/-- Without a token for the fraction, dollars are printed as if groups had not been left out. With
such a token the pattern has no groups, and no mark is printed. -/
theorem printSkeleton_ungrouped_dollars :
    (printerOf .english).printSkeleton (.ofInt 1234567) dollars =
        (printerOf .english).printSkeleton (.ofInt 1234567) ["currency/USD"] ∧
      (printerOf .english).ChoosesUngrouped (".00" :: dollars) ∧
      (printerOf .english).printSkeleton (.ofInt 1234567) (".00" :: dollars) =
        .ok "$1234567.00" ∧
      ¬ (printerOf .english).groupMark.toList <:+: "$1234567.00".toList := by
  have hdollars : AreSupported dollars := by decide +kernel
  have hcents : AreSupported (".00" :: dollars) := by decide +kernel
  obtain ⟨-, hignored⟩ := printSkeleton_ungrouped hasOwnMark_english.groupsByPattern hdollars
    (by decide +kernel) (by decide +kernel)
  obtain ⟨hhonoured, -⟩ := printSkeleton_ungrouped hasOwnMark_english.groupsByPattern hcents
    (by decide +kernel) (by decide +kernel)
  obtain ⟨hchooses, habsent⟩ := hhonoured (by decide +kernel)
  have hsymbols : (printerOf .english).HasPlainSymbols (".00" :: dollars) := by
    intro code hcode
    have htokens : tokensOf (".00" :: dollars) = .fraction ".00" :: tokensOf dollars := by
      decide +kernel
    exact hasPlainSymbols_dollars code (by simpa [htokens] using hcode)
  have hprint : (printerOf .english).printSkeleton (.ofInt 1234567) (".00" :: dollars) =
      .ok "$1234567.00" := by decide +kernel
  exact ⟨(hignored (by decide +kernel)).2 (.ofInt 1234567), hchooses, hprint,
    habsent (.ofInt 1234567) _ hsymbols hprint⟩

/-- Not every skeleton of supported tokens leaves out the groups that it is asked to leave out, be
numbers grouped as their patterns say. -/
theorem not_forall_printSkeleton_ungrouped :
    ¬ ∀ (b : NumberPrinter) (ts : List String) (x : Decimal) (text : String), b.GroupsByPattern →
      AreSupported ts → .grouping ∈ aspects ts → .compact ∉ aspects ts → b.HasPlainSymbols ts →
      x.isFinite = true → b.printSkeleton x ts = .ok text →
      b.ChoosesUngrouped ts ∧ ¬ b.groupMark.toList <:+: text.toList := by
  intro h
  have hprint : (printerOf .english).printSkeleton (.ofInt 1234567) dollars =
      .ok "$1,234,567.00" := by decide +kernel
  have hmark : (printerOf .english).groupMark.toList <:+: "$1,234,567.00".toList := by
    decide +kernel
  exact (h (printerOf .english) dollars (.ofInt 1234567) _ hasOwnMark_english.groupsByPattern
    (by decide +kernel) (by decide +kernel) (by decide +kernel) hasPlainSymbols_dollars rfl
    hprint).2 hmark

end Polyglot.Message
