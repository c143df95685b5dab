import Mathlib.Data.List.Nodup
import Polyglot.Message.Template
import Polyglot.Proofs.Outcome

/-!
# The order of skeleton tokens

Each token of a number skeleton settles one aspect of how a number is printed. What tokens of
different aspects settle, and the factor of the one that scales, do not depend on their order.
-/
namespace Polyglot.Message

/-! ## Aspects -/

/-- What a token of a number skeleton settles. -/
inductive Aspect
  | percent
  | currency
  | precision
  | compact
  | grouping
  | scale
  deriving DecidableEq, Repr

def SkeletonToken.aspect : SkeletonToken → Aspect
  | .percent => .percent
  | .currency _ => .currency
  | .wholeOnly => .precision
  | .compact _ => .compact
  | .ungrouped => .grouping
  | .fraction _ => .precision
  | .scale _ => .scale

def tokensOf (ts : List String) : List SkeletonToken := ts.filterMap SkeletonToken.ofText?

/-- What the texts of a skeleton settle, one after another. -/
def aspects (ts : List String) : List Aspect := (tokensOf ts).map SkeletonToken.aspect

def AreSupported (ts : List String) : Prop := ∀ t ∈ ts, (SkeletonToken.ofText? t).isSome

instance (ts : List String) : Decidable (AreSupported ts) :=
  inferInstanceAs (Decidable (∀ t ∈ ts, (SkeletonToken.ofText? t).isSome))

theorem AreSupported.of_perm {ts us : List String} (h : AreSupported ts) (hperm : ts.Perm us) :
    AreSupported us :=
  fun t ht => h t (hperm.mem_iff.2 ht)

/-! ## What a token does -/

/-- What is settled after one more token. -/
def Skeleton.settle (k : Skeleton) : SkeletonToken → Skeleton
  | .percent => { k with percent := true }
  | .currency code => { k with currency := some code }
  | .wholeOnly => { k with fraction := some "" }
  | .compact length => { k with compact := some length }
  | .ungrouped => { k with grouped := false }
  | .fraction digits => { k with fraction := some digits }
  | .scale _ => k

/-- The number after a token. -/
def SkeletonToken.scaled (x : Decimal) : SkeletonToken → Except SkeletonFault Decimal
  | .scale factor =>
      match Decimal.read? factor.toList with
      | none => .error (.decimal .invalid)
      | some f => (x.mul f).mapError .decimal
  | _ => .ok x

theorem Skeleton.step_eq (k : Skeleton) (x : Decimal) (t : SkeletonToken) :
    Skeleton.step (k, x) t = (t.scaled x).map fun y => (k.settle t, y) := by
  cases t with
  | scale factor =>
    simp only [Skeleton.step, SkeletonToken.scaled, Skeleton.settle]
    cases Decimal.read? factor.toList <;> rfl
  | _ => rfl

/-- What is settled and what becomes of the number do not depend on each other. -/
theorem Skeleton.collect_eq {ts : List String} (hknown : AreSupported ts) (k : Skeleton)
    (x : Decimal) :
    Skeleton.collect (k, x) ts =
      ((tokensOf ts).foldlM SkeletonToken.scaled x).map fun y =>
        ((tokensOf ts).foldl Skeleton.settle k, y) := by
  induction ts generalizing k x with
  | nil => rfl
  | cons t ts ih =>
    obtain ⟨token, htoken⟩ := Option.isSome_iff_exists.1 (hknown t List.mem_cons_self)
    have hrest : AreSupported ts := fun u hu => hknown u (List.mem_cons_of_mem _ hu)
    rw [Skeleton.collect, htoken, tokensOf, List.filterMap_cons_some htoken, List.foldlM_cons,
      List.foldl_cons]
    simp only [Skeleton.step_eq]
    cases token.scaled x with
    | error e => rfl
    | ok y => exact ih hrest (k.settle token) y

/-! ## Tokens of different aspects -/

section Commute

variable {t u : SkeletonToken}

theorem Skeleton.settle_comm (h : t.aspect ≠ u.aspect) (k : Skeleton) :
    (k.settle t).settle u = (k.settle u).settle t := by
  cases t <;> cases u <;> first | rfl | exact absurd rfl h

theorem SkeletonToken.scaled_of_ne (h : t.aspect ≠ .scale) (x : Decimal) : t.scaled x = .ok x := by
  cases t with
  | scale => exact absurd rfl h
  | _ => rfl

/-- Of two tokens of different aspects at most one changes the number. -/
theorem SkeletonToken.scaled_comm (h : t.aspect ≠ u.aspect) (r : Except SkeletonFault Decimal) :
    ((r >>= fun x => t.scaled x) >>= fun x => u.scaled x) =
      ((r >>= fun x => u.scaled x) >>= fun x => t.scaled x) := by
  have hskip {v : SkeletonToken} (hv : v.aspect ≠ .scale) (s : Except SkeletonFault Decimal) :
      (s >>= fun x => v.scaled x) = s := by
    simp only [SkeletonToken.scaled_of_ne hv]
    exact bind_pure s
  by_cases ht : t.aspect = .scale
  · have hu : u.aspect ≠ .scale := fun hu => h (ht.trans hu.symm)
    rw [hskip hu, hskip hu]
  · rw [hskip ht, hskip ht]

end Commute

/-! ## Order -/

section Order

variable {tokens others : List SkeletonToken}

/-- A fold over tokens of pairwise different aspects does not depend on their order, if its steps
commute for two such tokens. -/
theorem foldl_tokens_perm {β : Type} {f : β → SkeletonToken → β} (hperm : tokens.Perm others)
    (hone : (tokens.map SkeletonToken.aspect).Nodup)
    (hcomm : ∀ t u, t.aspect ≠ u.aspect → ∀ b, f (f b t) u = f (f b u) t) (b : β) :
    tokens.foldl f b = others.foldl f b := by
  refine hperm.foldl_eq' (fun t ht u hu b => ?_) b
  by_cases haspect : t.aspect = u.aspect
  · rw [List.inj_on_of_nodup_map hone ht hu haspect]
  · exact hcomm t u haspect b

theorem foldlM_scaled_perm (hperm : tokens.Perm others)
    (hone : (tokens.map SkeletonToken.aspect).Nodup) (x : Decimal) :
    tokens.foldlM SkeletonToken.scaled x = others.foldlM SkeletonToken.scaled x := by
  rw [List.foldlM_eq_foldl, List.foldlM_eq_foldl]
  exact foldl_tokens_perm hperm hone (fun _ _ => SkeletonToken.scaled_comm) _

end Order

/-- A number prints alike with the tokens of a skeleton in any order, or fails to print for the same
reason, if no two of them settle the same aspect. -/
theorem printSkeleton_perm {ts us : List String} (hperm : ts.Perm us) (hknown : AreSupported ts)
    (hone : (aspects ts).Nodup) (l : Locale) (x : Decimal) :
    printSkeleton l x ts = printSkeleton l x us := by
  have htokens : (tokensOf ts).Perm (tokensOf us) := hperm.filterMap _
  have hsettle := foldl_tokens_perm htokens hone (fun _ _ => Skeleton.settle_comm) Skeleton.default
  have hscale := foldlM_scaled_perm htokens hone x
  rw [printSkeleton, printSkeleton, NumberPrinter.printSkeleton, NumberPrinter.printSkeleton,
    Skeleton.collect_eq hknown, Skeleton.collect_eq (hknown.of_perm hperm), hsettle, hscale]

/-- A price in cents, with its tokens in two orders. -/
theorem printSkeleton_perm_price :
    printSkeleton .english (.ofInt 123456) ["scale/0.01", "currency/EUR", ".00", "group-off"] =
        printSkeleton .english (.ofInt 123456) ["group-off", ".00", "currency/EUR", "scale/0.01"] ∧
      printSkeleton .english (.ofInt 123456) ["group-off", ".00", "currency/EUR", "scale/0.01"] =
        .ok "€1234.56" :=
  ⟨printSkeleton_perm (by decide) (by decide +kernel) (by decide +kernel) .english
    (.ofInt 123456), by decide +kernel⟩

end Polyglot.Message
