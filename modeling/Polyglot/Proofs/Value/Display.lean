import Polyglot.Proofs.Text.Digit
import Polyglot.Value.Text

/-!
# Dollar signs in texts of values

The text of a value that is neither a text nor a collection is made of digits, signs and words; there
is no dollar sign in it.
-/
namespace Polyglot

namespace Text

@[simp] theorem dollar_not_mem_natDigits (n : Nat) : '$' ∉ natDigits n := by
  intro h
  obtain ⟨d, hd⟩ := exists_of_mem_natDigits h
  have hdigit := isDigit_digitChar d
  rw [← hd] at hdigit
  exact absurd hdigit (by decide)

@[simp] theorem dollar_not_mem_intText (n : Int) : '$' ∉ intText n := by
  rw [intText]
  split <;> simp

theorem dollar_not_mem_padZeros {cs : List Char} (h : '$' ∉ cs) (width : Nat) :
    '$' ∉ padZeros width cs := by
  simp [padZeros, h]

end Text

open Text

@[simp] theorem dollar_not_mem_padded (width n : Nat) : '$' ∉ (padded width n).toList := by
  rw [padded, String.toList_ofList]
  exact dollar_not_mem_padZeros (dollar_not_mem_natDigits n) width

/-! ## Days and moments -/

@[simp] theorem Date.dollar_not_mem_iso (d : Date) : '$' ∉ d.iso.toList := by
  simp [iso, toString]

@[simp] theorem Clock.dollar_not_mem_iso (c : Clock) : '$' ∉ c.iso.toList := by
  rw [iso]
  split <;> simp [toString]

@[simp] theorem dollar_not_mem_offsetText (micros : Int) : '$' ∉ (offsetText micros).toList := by
  unfold offsetText
  extract_lets n seconds base tail
  have hbase : '$' ∉ base.toList := by simp [base, toString]
  have htail : '$' ∉ tail.toList := by
    dsimp only [tail]
    split
    · simp [toString]
    · split <;> simp [toString]
  split <;> simp [hbase, htail]

@[simp] theorem Moment.dollar_not_mem_text (m : Moment) : '$' ∉ m.text.toList := by
  cases hoffset : m.offset <;> simp [text, hoffset, toString]

/-! ## Numbers -/

namespace Binary64

theorem dollar_not_mem_pointAfter {cs : List Char} (h : '$' ∉ cs) (places : Nat) :
    '$' ∉ pointAfter places cs := by
  rw [pointAfter, List.mem_append, List.mem_cons]
  rintro (htake | heq | hdrop)
  · exact h (List.mem_of_mem_take htake)
  · exact absurd heq (by decide)
  · exact h (List.mem_of_mem_drop hdrop)

theorem dollar_not_mem_normal (s : Shortest) : '$' ∉ s.normal.1 := by
  unfold Shortest.normal
  dsimp only
  split
  · simp
  · intro h
    have hmem := List.dropWhile_subset _ (List.mem_reverse.1 h)
    exact dollar_not_mem_natDigits _ (List.mem_reverse.1 hmem)

@[simp] theorem dollar_not_mem_text (x : Binary64) : '$' ∉ x.text.toList := by
  cases x with
  | nan => decide
  | infinity s => cases s <;> decide
  | finite s m e =>
    have hsign : '$' ∉ (if s = true then ['-'] else []) := by cases s <;> decide
    have hdigits := dollar_not_mem_normal (shortest m e)
    rw [text]
    split
    · simp [hsign]
    · generalize (shortest m e).normal = parts at hdigits ⊢
      obtain ⟨ds, top⟩ := parts
      dsimp -zeta only at hdigits ⊢
      extract_lets mark head whole body
      have hmark : '$' ∉ mark := by
        dsimp only [mark]
        split <;> decide
      have hhead : '$' ∉ head := by
        dsimp only [head]
        split
        · exact hdigits
        · exact dollar_not_mem_pointAfter hdigits 1
      have hbody : '$' ∉ body := by
        dsimp only [body]
        split
        · simp [hmark, hhead, dollar_not_mem_padZeros]
        · split
          · simp [hdigits]
          · split
            · simp [hdigits]
            · exact dollar_not_mem_pointAfter hdigits whole
      simp [hsign, hbody]

end Binary64

namespace Decimal

theorem dollar_not_mem_fixedParts (c : Nat) (e : Int) :
    '$' ∉ (fixedParts c e).1 ∧ '$' ∉ (fixedParts c e).2 := by
  unfold fixedParts
  extract_lets ds
  have hds : '$' ∉ ds := dollar_not_mem_natDigits c
  split
  · split <;> simp [hds]
  · have hfilled := dollar_not_mem_padZeros hds ((-e).toNat + 1)
    exact ⟨fun h => hfilled (List.mem_of_mem_take h), fun h => hfilled (List.mem_of_mem_drop h)⟩

@[simp] theorem dollar_not_mem_text (d : Decimal) : '$' ∉ d.text.toList := by
  cases d with
  | nan s isSignaling payload =>
    have hpayload : '$' ∉ payloadText payload := by
      rw [payloadText]
      split <;> simp
    cases s <;> cases isSignaling <;> simp [text, hpayload]
  | infinity s => cases s <;> decide
  | finite s c e =>
    have hsign : '$' ∉ (if s = true then ['-'] else []) := by cases s <;> decide
    have hparts := dollar_not_mem_fixedParts c e
    rw [text]
    split
    · generalize fixedParts c e = parts at hparts ⊢
      obtain ⟨a, b⟩ := parts
      cases b <;> simpa [hsign] using hparts
    · extract_lets ds head
      have hds : '$' ∉ ds := dollar_not_mem_natDigits c
      have hhead : '$' ∉ head := by
        dsimp only [head]
        split
        · exact hds
        · exact Binary64.dollar_not_mem_pointAfter hds 1
      have hmark : '$' ≠ (if adjusted c e < 0 then '-' else '+') := by split <;> decide
      simp [hsign, hhead, hmark]

end Decimal

/-! ## Values -/

def Value.isComposite : Value → Bool
  | .text _ => true
  | .list _ => true
  | .dict _ => true
  | _ => false

/-- There is no dollar sign in the text of a value of any other kind. -/
theorem Value.dollar_not_mem_display {v : Value} (h : v.isComposite = false) :
    '$' ∉ v.display.toList := by
  cases v with
  | null => decide
  | bool b => cases b <;> decide
  | int n => simp [display, literal, intString]
  | float x => simp [display, literal]
  | decimal d => simp [display]
  | date d => simp [display]
  | moment m => simp [display]
  | text s => cases h
  | list vs => cases h
  | dict es => cases h

end Polyglot
