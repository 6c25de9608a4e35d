import Skirmish.Document.Json.Printer

/-!
# A document takes one line

The JSON text of a document has no line break (`Json.newline_notMem_write`): breaks in its strings
are escaped, numbers are made of digits, signs, points and the letter of the exponent, and nothing is
put between the parts. So documents that are printed one after the other can be told apart by lines.
-/

namespace Skirmish

/-! ## Numbers -/

namespace Number

theorem newline_notMem_digits (n : Nat) : '\n' ∉ digits n := by
  intro h
  have hdigit := Nat.isDigit_of_mem_toDigits (by decide) (Nat.le_refl 10) h
  cases hdigit

theorem newline_notMem_signed {negative : Bool} {body : List Char} (h : '\n' ∉ body) :
    '\n' ∉ signed negative body := by
  cases negative with
  | false => exact h
  | true => exact List.not_mem_cons_of_ne_of_not_mem (by decide) h

theorem newline_notMem_withPlaces {ds : List Char} (h : '\n' ∉ ds) (places : Nat) :
    '\n' ∉ withPlaces ds places := by
  have hpadded : '\n' ∉ List.replicate (places + 1 - ds.length) '0' ++ ds := by
    rw [List.mem_append, List.mem_replicate]
    rintro (⟨-, hzero⟩ | hmem)
    · cases hzero
    · exact h hmem
  rw [withPlaces, List.mem_append, List.mem_cons]
  rintro (hmem | hpoint | hmem)
  · exact hpadded (List.mem_of_mem_take hmem)
  · cases hpoint
  · exact hpadded (List.mem_of_mem_drop hmem)

theorem newline_notMem_scientificDigits {ds : List Char} (h : '\n' ∉ ds) :
    '\n' ∉ scientificDigits ds := by
  match ds with
  | [] => exact h
  | [d] => exact h
  | d :: e :: rest =>
    refine List.not_mem_cons_of_ne_of_not_mem (List.ne_of_not_mem_cons h) ?_
    exact List.not_mem_cons_of_ne_of_not_mem (by decide) (List.not_mem_of_not_mem_cons h)

/-- A number is written on one line. -/
theorem newline_notMem_document (x : Number.Single) : '\n' ∉ document x := by
  have hdigits := newline_notMem_digits (shortest x).significand
  refine newline_notMem_signed ?_
  split
  · decide
  · split
    · split
      · simp only [List.mem_append, List.mem_replicate]
        rintro ((hmem | ⟨-, hzero⟩) | hend)
        · exact hdigits hmem
        · cases hzero
        · exact absurd hend (by decide)
      · exact newline_notMem_withPlaces hdigits _
    · rw [List.mem_append, List.mem_cons, List.mem_cons]
      -- The digits, the letter, the sign of the exponent, and its digits.
      rintro (hmem | hletter | hsign | hmem)
      · exact newline_notMem_scientificDigits hdigits hmem
      · cases hletter
      · split at hsign <;> cases hsign
      · exact newline_notMem_digits _ hmem

end Number

/-! ## Documents -/

namespace Json

/-- A hexadecimal digit is no newline. -/
theorem hexDigit_ne_newline {n : Nat} (h : n < 16) : hexDigit n ≠ '\n' := by
  rw [hexDigit, Nat.toDigits_eq_if (by decide), if_pos h, List.headD_cons]
  revert n
  decide

/-- A character is escaped without a newline, the newline itself included. -/
theorem newline_notMem_escape (c : Char) : '\n' ∉ escape c := by
  unfold escape
  split
  all_goals try decide
  rename_i hnewline _ _
  split
  · rename_i hcontrol
    have hhigh := hexDigit_ne_newline (n := c.toNat / 16) (by omega)
    have hlow := hexDigit_ne_newline (n := c.toNat % 16) (by omega)
    simp [hhigh.symm, hlow.symm]
  · simpa [eq_comm] using hnewline

theorem newline_notMem_writeString (s : String) : '\n' ∉ writeString s := by
  rw [writeString, List.mem_append, List.mem_cons, List.mem_flatMap]
  rintro ((hquote | ⟨c, -, hmem⟩) | hquote)
  · cases hquote
  · exact newline_notMem_escape c hmem
  · exact absurd hquote (by decide)

theorem newline_notMem_writeReal (x : Number.Single) : '\n' ∉ writeReal x := by
  unfold writeReal
  split
  · exact Number.newline_notMem_document x
  · decide

mutual

/-- **The text of a document has no line break.** -/
theorem newline_notMem_write : ∀ document : Document, '\n' ∉ write document
  | .null | .bool true | .bool false | .list [] | .record [] | .unreadable => by
    simp only [write]
    decide
  | .integer i => by
    rw [write, Number.integer]
    exact Number.newline_notMem_signed (Number.newline_notMem_digits _)
  | .real x => by
    rw [write]
    exact newline_notMem_writeReal x
  | .text s => by
    rw [write]
    exact newline_notMem_writeString s
  -- A list or a record has its first entry here and the others in the lemmas below.
  | .list (item :: items) => by
    simp only [write, List.mem_append, List.mem_cons, not_or]
    exact ⟨⟨by decide, newline_notMem_write item⟩, newline_notMem_writeItems items⟩
  | .record ((name, value) :: fields) => by
    simp only [write, List.mem_append, List.mem_cons, not_or]
    exact ⟨⟨⟨by decide, newline_notMem_writeString name⟩, by decide, newline_notMem_write value⟩,
      newline_notMem_writeFields fields⟩

/-- The items of a list are written on one line. -/
theorem newline_notMem_writeItems : ∀ items : List Document, '\n' ∉ writeItems items
  | [] => by
    simp only [writeItems]
    decide
  | item :: items => by
    simp only [writeItems, List.mem_append, List.mem_cons, not_or]
    exact ⟨⟨by decide, newline_notMem_write item⟩, newline_notMem_writeItems items⟩

/-- The fields of a record are written on one line. -/
theorem newline_notMem_writeFields : ∀ fields : List (String × Document), '\n' ∉ writeFields fields
  | [] => by
    simp only [writeFields]
    decide
  | (name, value) :: fields => by
    simp only [writeFields, List.mem_append, List.mem_cons, not_or]
    exact ⟨⟨⟨by decide, newline_notMem_writeString name⟩, by decide, newline_notMem_write value⟩,
      newline_notMem_writeFields fields⟩

end

end Json

end Skirmish
