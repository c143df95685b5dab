import Mathlib.Data.List.Chain
import Polyglot.Detection.Preference
import Polyglot.Proofs.Number.Binary64

/-!
# The order of preferred languages

The languages of a header are those of its parts that count, once for each part. A language of a
higher quality comes before one of a lower quality, and languages of equal quality keep the order of
the header. To say so, every language is taken with the position of its part.
-/
namespace Polyglot.Preference

open Text

/-! ## Order -/

/-- Whether a language comes before another one, both being taken with their positions. -/
def ComesFirst (x y : Weighted × Nat) : Prop :=
  Binary64.compare? x.1.quality y.1.quality = some .gt ∨
    Binary64.compare? x.1.quality y.1.quality = some .eq ∧ x.2 < y.2

instance : IsTrans (Weighted × Nat) ComesFirst where
  trans := by
    rintro x y z (hxy | ⟨hxy, hlt⟩) (hyz | ⟨hyz, hlt'⟩)
    · exact .inl (Binary64.compare?_trans hxy hyz (by decide) (by decide))
    · exact .inl (Binary64.compare?_trans hxy hyz (by decide) (by decide))
    · exact .inl (Binary64.compare?_trans hxy hyz (by decide) (by decide))
    · exact .inr ⟨Binary64.compare?_trans hxy hyz (by decide) (by decide), Nat.lt_trans hlt hlt'⟩

theorem before_eq_true_iff {a b : Weighted} :
    before a b = true ↔ Binary64.compare? a.quality b.quality = some .gt := by
  rw [before, beq_iff_eq]
  exact ⟨fun h => Binary64.compare?_swap h, fun h => Binary64.compare?_swap h⟩

theorem comesFirst_of_before {x y : Weighted × Nat} (h : before x.1 y.1 = true) : ComesFirst x y :=
  .inl (before_eq_true_iff.1 h)

/-- Of two languages the earlier one comes first, unless the later one is to come before it. -/
theorem comesFirst_of_not_before {x y : Weighted × Nat} (hx : x.1.quality.isNaN = false)
    (hy : y.1.quality.isNaN = false) (hlt : x.2 < y.2) (h : before y.1 x.1 = false) :
    ComesFirst x y := by
  obtain ⟨o, ho⟩ := Binary64.exists_compare? hx hy
  cases o with
  | lt =>
    have hbefore := before_eq_true_iff.2 (Binary64.compare?_swap ho)
    rw [h] at hbefore
    cases hbefore
  | eq => exact .inr ⟨ho, hlt⟩
  | gt => exact .inl ho

/-- What is to come before a language is to come before all those after it. -/
theorem before_of_comesFirst {a : Weighted} {x y : Weighted × Nat} (hxy : ComesFirst x y)
    (h : before a x.1 = true) : before a y.1 = true := by
  have hax := before_eq_true_iff.1 h
  rw [before_eq_true_iff]
  rcases hxy with hxy | ⟨hxy, -⟩
  · exact Binary64.compare?_trans hax hxy (by decide) (by decide)
  · exact Binary64.compare?_trans hax hxy (by decide) (by decide)

/-! ## Insertion -/

/-- The search by halving finds where the items begin that the new one is to come before. -/
theorem position_spec {sorted : List Weighted} (item : Weighted) {low high : Nat}
    (hmono : sorted.Pairwise fun a b => before item a = true → before item b = true)
    (hle : low ≤ high) (hsize : high ≤ sorted.length)
    (hlow : ∀ a ∈ sorted.take low, before item a = false)
    (hhigh : ∀ a ∈ sorted.drop high, before item a = true) :
    let k := position sorted.toArray item low high
    (∀ a ∈ sorted.take k, before item a = false) ∧ ∀ a ∈ sorted.drop k, before item a = true := by
  generalize harray : sorted.toArray = items
  fun_induction position items item low high with
  | case3 low high hlt =>
    obtain rfl : low = high := by omega
    exact ⟨hlow, hhigh⟩
  | case1 low high hlt middle hmiddle ih =>
    subst harray
    have hlen : middle < sorted.length := by omega
    have hcut : sorted = sorted.take middle ++ sorted[middle] :: sorted.drop (middle + 1) := by simp
    rw [hcut, List.pairwise_append, List.pairwise_cons] at hmono
    have hitem : before item sorted[middle] = true := by simpa [hlen] using hmiddle
    refine ih (by omega) (by omega) hlow ?_
    rw [List.drop_eq_getElem_cons hlen]
    exact List.forall_mem_cons.2 ⟨hitem, fun a ha => hmono.2.1.1 a ha hitem⟩
  | case2 low high hlt middle hmiddle ih =>
    subst harray
    have hlen : middle < sorted.length := by omega
    have hcut : sorted = sorted.take middle ++ sorted[middle] :: sorted.drop (middle + 1) := by simp
    rw [hcut, List.pairwise_append] at hmono
    have hitem : before item sorted[middle] = false := by simpa [hlen] using hmiddle
    refine ih (by omega) hsize ?_ hhigh
    rw [List.take_succ_eq_append_getElem hlen]
    refine List.forall_mem_append.2 ⟨fun a ha => ?_, List.forall_mem_singleton.2 hitem⟩
    rw [← Bool.not_eq_true]
    intro hbefore
    rw [hmono.2.2 a ha _ List.mem_cons_self hbefore] at hitem
    cases hitem

/-- Inserting cuts a ranking in two: the new item is to come before the second part only. -/
theorem exists_insert_eq {ranked : List (Weighted × Nat)} (hsorted : ranked.Pairwise ComesFirst)
    (item : Weighted) :
    ∃ front back, ranked = front ++ back ∧
      insert (ranked.map (·.1)) item = front.map (·.1) ++ item :: back.map (·.1) ∧
      (∀ x ∈ front, before item x.1 = false) ∧ ∀ x ∈ back, before item x.1 = true := by
  obtain ⟨hfront, hback⟩ := position_spec item
    (List.pairwise_map.2 (hsorted.imp before_of_comesFirst)) (Nat.zero_le _)
    (Nat.le_refl (ranked.map (·.1)).length) (by simp) (by rw [List.drop_length]; simp)
  rw [← List.map_take] at hfront
  rw [← List.map_drop] at hback
  refine ⟨_, _, (List.take_append_drop _ ranked).symm, ?_, List.forall_mem_map.1 hfront,
    List.forall_mem_map.1 hback⟩
  rw [insert, List.map_take, List.map_drop]

/-! ## Rankings -/

/-- Languages in the order of a header, none of a quality that is not a number. -/
structure IsNumbered (items : List (Weighted × Nat)) : Prop where
  positions : items.Pairwise fun x y => x.2 < y.2
  qualities : ∀ x ∈ items, x.1.quality.isNaN = false

/-- A ranking of languages: each of them is in it once, and they are in order. -/
structure IsRanking (items ranked : List (Weighted × Nat)) : Prop where
  perm : ranked.Perm items
  sorted : ranked.Pairwise ComesFirst

section Ranking

variable {items ranked rest : List (Weighted × Nat)} {x : Weighted × Nat}

theorem IsNumbered.left (h : IsNumbered (items ++ rest)) : IsNumbered items where
  positions := (List.pairwise_append.1 h.positions).1
  qualities y hy := h.qualities y (List.mem_append_left rest hy)

/-- The next language finds its place in a ranking of those before it. -/
theorem IsRanking.exists_insert (h : IsRanking items ranked) (hnum : IsNumbered (items ++ [x])) :
    ∃ more, insert (ranked.map (·.1)) x.1 = more.map (·.1) ∧ IsRanking (items ++ [x]) more := by
  obtain ⟨front, back, rfl, hinsert, hfront, hback⟩ := exists_insert_eq h.sorted x.1
  refine ⟨front ++ x :: back, by rw [hinsert, List.map_append, List.map_cons], ?_, ?_⟩
  · exact List.perm_middle.trans ((h.perm.cons x).trans (List.perm_append_singleton x items).symm)
  · obtain ⟨hsortedFront, hsortedBack, hacross⟩ := List.pairwise_append.1 h.sorted
    refine List.pairwise_append.2 ⟨hsortedFront, List.pairwise_cons.2 ⟨fun y hy =>
      comesFirst_of_before (hback y hy), hsortedBack⟩, fun y hy z hz => ?_⟩
    rcases List.mem_cons.1 hz with rfl | hz
    · have hmem : y ∈ items := h.perm.subset (List.mem_append_left back hy)
      have hlt := (List.pairwise_append.1 hnum.positions).2.2 y hmem z (List.mem_singleton_self z)
      exact comesFirst_of_not_before (hnum.qualities y (List.mem_append_left _ hmem))
        (hnum.qualities z (List.mem_append_right _ (List.mem_singleton_self z))) hlt (hfront y hy)
    · exact hacross y hy z hz

theorem IsRanking.exists_foldl_insert (h : IsRanking items ranked)
    (hnum : IsNumbered (items ++ rest)) :
    ∃ more, (rest.map (·.1)).foldl insert (ranked.map (·.1)) = more.map (·.1) ∧
      IsRanking (items ++ rest) more := by
  induction rest generalizing items ranked with
  | nil => exact ⟨ranked, rfl, by rwa [List.append_nil]⟩
  | cons x rest ih =>
    rw [List.append_cons] at hnum ⊢
    obtain ⟨next, hinsert, hnext⟩ := h.exists_insert hnum.left
    rw [List.map_cons, List.foldl_cons, hinsert]
    exact ih hnext hnum

/-! ## Runs at the front -/

theorem exists_cutFalling_eq (last : Weighted × Nat) (rest : List (Weighted × Nat)) :
    ∃ run tail, rest = run ++ tail ∧
      cutFalling last.1 (rest.map (·.1)) = (run.map (·.1), tail.map (·.1)) ∧
      (last :: run).IsChain fun x y => ComesFirst y x := by
  induction rest generalizing last with
  | nil => exact ⟨[], [], rfl, rfl, .singleton last⟩
  | cons x rest ih =>
    rw [List.map_cons, cutFalling]
    by_cases hbefore : before x.1 last.1 = true
    · obtain ⟨run, tail, rfl, hcut, hchain⟩ := ih x
      rw [if_pos hbefore, hcut]
      exact ⟨x :: run, tail, rfl, rfl, .cons_cons (comesFirst_of_before hbefore) hchain⟩
    · rw [if_neg hbefore]
      exact ⟨[], x :: rest, rfl, rfl, .singleton last⟩

theorem exists_cutRising_eq {last : Weighted × Nat} (hnum : IsNumbered (last :: rest)) :
    ∃ run tail, rest = run ++ tail ∧
      cutRising last.1 (rest.map (·.1)) = (run.map (·.1), tail.map (·.1)) ∧
      (last :: run).IsChain ComesFirst := by
  induction rest generalizing last with
  | nil => exact ⟨[], [], rfl, rfl, .singleton last⟩
  | cons x rest ih =>
    obtain ⟨hlast, hpositions⟩ := List.pairwise_cons.1 hnum.positions
    obtain ⟨hquality, hqualities⟩ := List.forall_mem_cons.1 hnum.qualities
    rw [List.map_cons, cutRising]
    by_cases hbefore : before x.1 last.1 = true
    · rw [if_pos hbefore]
      exact ⟨[], x :: rest, rfl, rfl, .singleton last⟩
    · obtain ⟨run, tail, rfl, hcut, hchain⟩ := ih ⟨hpositions, hqualities⟩
      have hfirst : ComesFirst last x := comesFirst_of_not_before hquality
        (hqualities x List.mem_cons_self) (hlast x List.mem_cons_self) (by simpa using hbefore)
      rw [if_neg hbefore, hcut]
      exact ⟨x :: run, tail, rfl, rfl, .cons_cons hfirst hchain⟩

/-- Sorting ranks the languages of a header. -/
theorem exists_sort_eq (hnum : IsNumbered items) :
    ∃ ranked, sort (items.map (·.1)) = ranked.map (·.1) ∧ IsRanking items ranked := by
  match items, hnum with
  | [], _ => exact ⟨[], rfl, .refl _, .nil⟩
  | [x], _ => exact ⟨[x], rfl, .refl _, List.pairwise_singleton _ x⟩
  | x :: y :: rest, hnum =>
    rw [List.map_cons, List.map_cons, sort]
    by_cases hbefore : before y.1 x.1 = true
    · obtain ⟨run, tail, rfl, hcut, hchain⟩ := exists_cutFalling_eq y rest
      have hfalling : (x :: y :: run).IsChain fun x y => ComesFirst y x :=
        .cons_cons (comesFirst_of_before hbefore) hchain
      have hranking : IsRanking (x :: y :: run) (x :: y :: run).reverse :=
        ⟨List.reverse_perm _, List.pairwise_reverse.2 (List.isChain_iff_pairwise.1 hfalling)⟩
      have hwhole : IsNumbered ((x :: y :: run) ++ tail) := hnum
      obtain ⟨more, hfold, hmore⟩ := hranking.exists_foldl_insert hwhole
      refine ⟨more, ?_, hmore⟩
      rw [if_pos hbefore, hcut, ← hfold]
      simp
    · have hbehind : IsNumbered (y :: rest) :=
        ⟨(List.pairwise_cons.1 hnum.positions).2, (List.forall_mem_cons.1 hnum.qualities).2⟩
      obtain ⟨run, tail, rfl, hcut, hchain⟩ := exists_cutRising_eq hbehind
      have hfirst : ComesFirst x y := comesFirst_of_not_before
        (hnum.qualities x List.mem_cons_self)
        (hnum.qualities y (List.mem_cons_of_mem x List.mem_cons_self))
        ((List.pairwise_cons.1 hnum.positions).1 y List.mem_cons_self) (by simpa using hbefore)
      have hranking : IsRanking (x :: y :: run) (x :: y :: run) :=
        ⟨.refl _, List.isChain_iff_pairwise.1 (.cons_cons hfirst hchain)⟩
      have hwhole : IsNumbered ((x :: y :: run) ++ tail) := hnum
      obtain ⟨more, hfold, hmore⟩ := hranking.exists_foldl_insert hwhole
      refine ⟨more, ?_, hmore⟩
      rw [if_neg hbefore, hcut, ← hfold]
      simp

end Ranking

/-! ## Parts of a header -/

/-- The language that a part of a header names: what stands before the first semicolon. -/
def tag (part : List Char) : String := String.ofList (trim (cutAt ';' (trim part)).1)

/-- The parameters of a part: what stands behind the first semicolon. -/
def parameters (part : List Char) : List Char := ((cutAt ';' (trim part)).2).getD []

/-- The quality that the parameters of a part give. -/
inductive HasQuality (params : List Char) : Binary64 → Prop
  /-- a number behind `q=` -/
  | given {c : Char} {text : List Char} {quality : Binary64} (letter : c = 'q' ∨ c = 'Q')
      (trimmed : trim params = c :: '=' :: text)
      (number : Literal.binary64? (trim text) = some quality) : HasQuality params quality
  /-- one, unless there is a `q=` -/
  | usual (other : ∀ c text, c = 'q' ∨ c = 'Q' → trim params ≠ c :: '=' :: text) :
      HasQuality params (.ofRatio false 1 1)

/-- What a part of a header counts as: a language of a quality above zero. -/
structure Counts (part : List Char) (w : Weighted) : Prop where
  tag : w.tag = tag part
  nonempty : w.tag ≠ ""
  particular : w.tag ≠ "*"
  quality : HasQuality (parameters part) w.quality
  positive : Binary64.compare? w.quality .zero = some .gt

theorem quality?_eq_some_iff {params : List Char} {quality : Binary64} :
    quality? params = some quality ↔ HasQuality params quality := by
  unfold quality?
  split
  · rename_i c text htrim
    by_cases hc : c = 'q' ∨ c = 'Q'
    · rw [if_pos hc]
      constructor
      · exact .given hc htrim
      · rintro (⟨-, htrim', hnumber⟩ | hother)
        · cases htrim.symm.trans htrim'
          exact hnumber
        · exact absurd htrim (hother c text hc)
    · rw [if_neg hc]
      constructor
      · rintro ⟨⟩
        refine .usual fun c' text' hc' htrim' => hc ?_
        cases htrim.symm.trans htrim'
        exact hc'
      · rintro (⟨hc', htrim', -⟩ | -)
        · cases htrim.symm.trans htrim'
          exact absurd hc' hc
        · rfl
  · rename_i hother
    constructor
    · rintro ⟨⟩
      exact .usual fun c text _ htrim => hother c text htrim
    · rintro (⟨-, htrim, -⟩ | -)
      · exact absurd htrim (hother _ _)
      · rfl

theorem isNone_eq_false_iff {quality : Binary64} (h : quality ≠ .nan) :
    isNone quality = false ↔ Binary64.compare? quality .zero = some .gt := by
  have hnan : quality.isNaN = false := by
    cases quality with
    | nan => exact absurd rfl h
    | infinity => rfl
    | finite => rfl
  obtain ⟨o, ho⟩ := Binary64.exists_compare? hnan (show Binary64.zero.isNaN = false from rfl)
  rw [isNone, ho]
  cases o <;> simp

theorem part?_eq (part : List Char) :
    part? part = (quality? (parameters part)).bind fun quality =>
      if tag part = "" ∨ tag part = "*" ∨ isNone quality = true then none
      else some ⟨tag part, quality⟩ := by
  have hempty : tag part = "" ↔ trim (cutAt ';' (trim part)).1 = [] := String.ofList_eq_empty_iff
  have hstar : tag part = "*" ↔ trim (cutAt ';' (trim part)).1 = ['*'] := String.ofList_inj
  simp only [hempty, hstar]
  cases hquality : quality? (parameters part) with
  | none =>
    rw [parameters] at hquality
    simp only [part?, hquality, Option.bind_none]
  | some quality =>
    rw [parameters] at hquality
    simp [part?, hquality, tag, or_assoc]

theorem part?_eq_some_iff {part : List Char} {w : Weighted}
    (h : ¬HasQuality (parameters part) .nan) : part? part = some w ↔ Counts part w := by
  have hpositive {quality : Binary64} (hhas : HasQuality (parameters part) quality) :
      isNone quality = false ↔ Binary64.compare? quality .zero = some .gt :=
    isNone_eq_false_iff fun hnan => h (hnan ▸ hhas)
  rw [part?_eq, Option.bind_eq_some_iff]
  constructor
  · rintro ⟨quality, hquality, hkept⟩
    have hhas := quality?_eq_some_iff.1 hquality
    split at hkept
    · cases hkept
    · rename_i hnot
      obtain ⟨hempty, hnot⟩ := not_or.1 hnot
      obtain ⟨hstar, hnone⟩ := not_or.1 hnot
      cases hkept
      exact ⟨rfl, hempty, hstar, hhas, (hpositive hhas).1 (by simpa using hnone)⟩
  · rintro ⟨htag, hempty, hstar, hhas, hgt⟩
    refine ⟨w.quality, quality?_eq_some_iff.2 hhas, ?_⟩
    rw [← htag, (hpositive hhas).2 hgt, if_neg]
    simp [hempty, hstar]

/-! ## Headers -/

/-- The languages of the pieces of a header, with the positions of the pieces. -/
def numbered (pieces : List (List Char)) : List (Weighted × Nat) :=
  pieces.zipIdx.filterMap fun x => (part? x.1).map (·, x.2)

theorem map_numbered (pieces : List (List Char)) :
    (numbered pieces).map (·.1) = pieces.filterMap part? := by
  rw [numbered, List.map_filterMap]
  conv_rhs => rw [← List.zipIdx_map_fst 0 pieces, List.filterMap_map]
  congr 1
  funext x
  simp [Function.comp_def]

theorem mem_numbered {pieces : List (List Char)} {w : Weighted} {i : Nat} :
    (w, i) ∈ numbered pieces ↔ ∃ part, pieces[i]? = some part ∧ part? part = some w := by
  simp only [numbered, List.mem_filterMap, Option.map_eq_some_iff, Prod.mk.injEq, Prod.exists,
    List.mem_zipIdx_iff_getElem?]
  constructor
  · rintro ⟨part, j, hpart, v, hv, rfl, rfl⟩
    exact ⟨part, hpart, hv⟩
  · rintro ⟨part, hpart, hw⟩
    exact ⟨part, i, hpart, w, hw, rfl, rfl⟩

/-- Whether no quality in a header is read as NaN. -/
def HasNumbers (header : String) : Prop :=
  ∀ part ∈ splitOn ',' header.toList, ¬HasQuality (parameters part) .nan

theorem isNumbered_numbered {header : String} (h : HasNumbers header) :
    IsNumbered (numbered (splitOn ',' header.toList)) where
  positions := by
    have hpositions : ((splitOn ',' header.toList).zipIdx.map (·.2)).Pairwise (· < ·) := by
      rw [List.zipIdx_map_snd]
      exact List.pairwise_lt_range'
    rw [numbered, List.pairwise_filterMap]
    refine (List.pairwise_map.1 hpositions).imp fun hlt a ha b hb => ?_
    obtain ⟨-, -, rfl⟩ := Option.map_eq_some_iff.1 ha
    obtain ⟨-, -, rfl⟩ := Option.map_eq_some_iff.1 hb
    exact hlt
  qualities := by
    rintro ⟨w, i⟩ hw
    obtain ⟨part, hpart, hcounts⟩ := mem_numbered.1 hw
    have hnumber := h part (List.mem_of_getElem? hpart)
    have hquality := ((part?_eq_some_iff hnumber).1 hcounts).quality
    cases hw : w.quality with
    | nan => exact absurd (hw ▸ hquality) hnumber
    | infinity => rfl
    | finite => rfl

/-- The languages of a header are those of the parts that count, each with the quality of its part
and once for each part, those of a higher quality first and those of equal quality in the order of
the header. -/
theorem exists_ranking_parse (header : String) (h : HasNumbers header) :
    ∃ ranked : List (Weighted × Nat),
      parse header = ranked.map (·.1.tag) ∧
      (∀ w i, (w, i) ∈ ranked ↔
        ∃ part, (splitOn ',' header.toList)[i]? = some part ∧ Counts part w) ∧
      (ranked.map (·.2)).Nodup ∧
      ranked.Pairwise ComesFirst := by
  have hnum := isNumbered_numbered h
  obtain ⟨ranked, hsort, hranking⟩ := exists_sort_eq hnum
  refine ⟨ranked, ?_, fun w i => ?_, ?_, hranking.sorted⟩
  · rw [parse, parts, ← map_numbered, hsort, List.map_map]
    rfl
  · rw [hranking.perm.mem_iff, mem_numbered]
    refine exists_congr fun part => and_congr_right fun hpart => ?_
    exact part?_eq_some_iff (h part (List.mem_of_getElem? hpart))
  · rw [(hranking.perm.map _).nodup_iff]
    exact (List.pairwise_map.2 hnum.positions).imp Nat.ne_of_lt

instance (header : String) : Decidable (HasNumbers header) :=
  decidable_of_iff
    (∀ part ∈ splitOn ',' header.toList, quality? (parameters part) ≠ some .nan)
    (forall₂_congr fun _ _ => not_congr quality?_eq_some_iff)

/-- A header with a wildcard, a malformed quality, a language twice and equal qualities. -/
theorem exists_ranking_parse_browser :
    HasNumbers "de;q=0.8, *;q=0.9, en ,fr;q=high,pl; Q=0.8,de-AT;level=1" ∧
    ∃ ranked : List (Weighted × Nat),
      parse "de;q=0.8, *;q=0.9, en ,fr;q=high,pl; Q=0.8,de-AT;level=1" =
        ranked.map (·.1.tag) ∧
      (∀ w i, (w, i) ∈ ranked ↔
        ∃ part, (splitOn ','
            "de;q=0.8, *;q=0.9, en ,fr;q=high,pl; Q=0.8,de-AT;level=1".toList)[i]? = some part ∧
          Counts part w) ∧
      (ranked.map (·.2)).Nodup ∧
      ranked.Pairwise ComesFirst := by
  have hnumbers : HasNumbers "de;q=0.8, *;q=0.9, en ,fr;q=high,pl; Q=0.8,de-AT;level=1" := by
    decide +kernel
  exact ⟨hnumbers, exists_ranking_parse _ hnumbers⟩

example : parse "de;q=0.8, *;q=0.9, en ,fr;q=high,pl; Q=0.8,de-AT;level=1" =
    ["en", "de-AT", "de", "pl"] := by decide +kernel

end Polyglot.Preference
