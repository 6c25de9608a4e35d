import Skirmish.Config
import Skirmish.Proofs.Number.Single

/-!
# Which configurations are accepted

A configuration that is read from a text is accepted if and only if its settings are admissible
(`Config.ofToml_eq_ok_iff`). A radius is refused for being too small, so that one that is no number
passes, and a text can say one (`Config.accepts_radius_nan`). The fraction is accepted for lying between
zero and one, so that it is always a number.
-/

namespace Skirmish

namespace Config

open Number.Single

/-- Whether the settings are in range, as far as they are numbers. The fraction has to be one. -/
structure Admissible (config : Config) : Prop where
  defaultRadius : config.defaultRadius.isNaN = true ∨ 0 < config.defaultRadius
  armySpawnJitter : config.armySpawnJitter.isNaN = true ∨ 0 ≤ config.armySpawnJitter
  geyserClaimRadius : config.geyserClaimRadius.isNaN = true ∨ 0 ≤ config.geyserClaimRadius
  blinkHealthFraction : 0 ≤ config.blinkHealthFraction ∧ config.blinkHealthFraction ≤ 1

theorem isNaN_zero : (0 : Number.Single).isNaN = false := by decide

/-- What is not below zero is at least zero or no number. -/
theorem not_lt_zero_iff (x : Number.Single) : ¬x < 0 ↔ x.isNaN = true ∨ 0 ≤ x := by
  cases hx : x.isNaN with
  | true =>
    refine iff_of_true (fun h => ?_) (Or.inl rfl)
    rw [(lt_iff.mp h).1.1] at hx
    cases hx
  | false => rw [not_lt_iff ⟨hx, isNaN_zero⟩, or_iff_right Bool.false_ne_true]

/-- What is not at most zero is above zero or no number. -/
theorem not_le_zero_iff (x : Number.Single) : ¬x ≤ 0 ↔ x.isNaN = true ∨ 0 < x := by
  cases hx : x.isNaN with
  | true =>
    refine iff_of_true (fun h => ?_) (Or.inl rfl)
    rw [(le_iff.mp h).1.1] at hx
    cases hx
  | false => rw [not_le_iff ⟨hx, isNaN_zero⟩, or_iff_right Bool.false_ne_true]

/-- A configuration has no fault just if it is admissible. -/
theorem fault?_eq_none_iff (config : Config) : config.fault? = none ↔ config.Admissible := by
  -- The checks reject by `≤` and `<`, which are false of NaN; that of the fraction accepts by `≤`.
  have hadmissible : config.Admissible ↔
      ¬(config.defaultRadius ≤ 0 ∨ config.armySpawnJitter < 0) ∧
        (0 ≤ config.blinkHealthFraction ∧ config.blinkHealthFraction ≤ 1) ∧
          ¬config.geyserClaimRadius < 0 := by
    rw [not_or, not_le_zero_iff, not_lt_zero_iff, not_lt_zero_iff]
    exact ⟨fun h => ⟨⟨h.1, h.2⟩, h.4, h.3⟩, fun h => ⟨h.1.1, h.1.2, h.2.2, h.2.1⟩⟩
  rw [hadmissible, fault?]
  split
  · rename_i hradii
    exact iff_of_false nofun fun h => h.1 hradii
  · rename_i hradii
    split
    · rename_i hfraction
      exact iff_of_false nofun fun h => hfraction h.2.1
    · rename_i hfraction
      split
      · rename_i hclaim
        exact iff_of_false nofun fun h => h.2.2 hclaim
      · rename_i hclaim
        exact iff_of_true rfl ⟨hradii, not_not.mp hfraction, hclaim⟩

/-- **A text is accepted if and only if it says a configuration that is admissible.** -/
theorem ofToml_eq_ok_iff (text : String) (config : Config) :
    ofToml text = .ok config ↔
      (Toml.parse text).bind (ofDocument? .toml) = some config ∧ config.Admissible := by
  rw [ofToml, ← fault?_eq_none_iff]
  -- A text that cannot be read at all is refused before any check.
  cases (Toml.parse text).bind (ofDocument? .toml) with
  | none => exact iff_of_false nofun fun h => nomatch h.1
  | some read =>
    cases hfault : read.fault? with
    | none =>
      simp only [hfault]
      constructor
      · rintro ⟨⟩
        exact ⟨rfl, hfault⟩
      · rintro ⟨⟨⟩, -⟩
        rfl
    | some fault =>
      simp only [hfault]
      refine iff_of_false nofun ?_
      rintro ⟨⟨⟩, hnone⟩
      rw [hfault] at hnone
      cases hnone

/-! ## A radius that is no number -/

section

open Toml

/-- A line that says a radius that is no number. -/
def nanLine : List Char :=
  ['d', 'e', 'f', 'a', 'u', 'l', 't', '_', 'r', 'a', 'd', 'i', 'u', 's', ' ', '=', ' ', 'n', 'a', 'n']

/-- The word `nan` is read as the NaN without a sign. -/
theorem readValue_nan (bound depth : Nat) :
    Toml.readValue (bound + 1) depth ['n', 'a', 'n'] = some (.real (.nan false), []) := by
  have hdate : readDateTime ['n', 'a', 'n'] = none := by cbv
  have hnumber : readNumber ['n', 'a', 'n'] = some (.real (.nan false), []) := rfl
  rw [Toml.readValue]
  · simp only [hdate, hnumber]
  all_goals nofun

/-- The line that sets the radius to `nan` is read as an assignment of it. -/
theorem readLine_nanLine :
    readLine nanLine = some (.assignment ["default_radius"] (.real (.nan false)), []) := by
  have hkey : readDottedKey nanLine = some (["default_radius"], ['=', ' ', 'n', 'a', 'n']) := by cbv
  have hblank : skipBlanks [' ', 'n', 'a', 'n'] = ['n', 'a', 'n'] := by cbv
  have hvalue := readValue_nan (2 * [' ', 'n', 'a', 'n'].length + 1) (nestingLimit - 1)
  have hend : readLineEnd [] = some [] := by cbv
  rw [nanLine] at *
  simp only [readLine, hkey, hblank, hvalue, hend, Option.bind_eq_bind, Option.bind_some]
  rfl

/-- A line is read that is not empty, and then those behind it. -/
theorem readLines_of_line {cs : List Char} {line : Line} {rest : List Char} (bound : Nat)
    (blank : skipBlanks cs = cs) (nonempty : cs ≠ []) (noEnd : readLineEnd cs = none)
    (reads : readLine cs = some (line, rest)) :
    readLines (bound + 1) cs = (readLines bound rest).map (line :: ·) := by
  obtain ⟨c, cs, rfl⟩ := List.exists_cons_of_ne_nil nonempty
  rw [readLines, blank]
  simp only [noEnd, reads, Option.bind_eq_bind, Option.bind_some]
  cases readLines bound rest <;> rfl

/-- The text of this one line is a record with that radius as its only field. -/
theorem parse_nanLine : Toml.parse "default_radius = nan" =
    some (.record [("default_radius", .real (.nan false))]) := by
  have htext : skipMark "default_radius = nan".toList = nanLine := by cbv
  have hlength : nanLine.length + 1 = 21 := rfl
  have hblank : skipBlanks nanLine = nanLine := by cbv
  have hend : readLineEnd nanLine = none := by cbv
  have hrest : readLines 20 [] = some [] := by cbv
  have hlines : readLines 21 nanLine = some [.assignment ["default_radius"] (.real (.nan false))] := by
    rw [readLines_of_line 20 hblank (List.cons_ne_nil _ _) hend readLine_nanLine, hrest,
      Option.map_some]
  simp only [Toml.parse, htext, hlength, hlines, Option.bind_eq_bind, Option.bind_some]
  rfl

end

/-- **A text can say a radius that is no number, and is accepted.** -/
theorem accepts_radius_nan : ∃ config, ofToml "default_radius = nan" = .ok config ∧
    config.defaultRadius.isNaN = true ∧ ¬0 < config.defaultRadius := by
  refine ⟨{ standard with defaultRadius := .nan false }, ?_, by decide, by decide⟩
  have hconfig : ofDocument? .toml (.record [("default_radius", .real (.nan false))]) =
      some { standard with defaultRadius := .nan false } := rfl
  have hfault : fault? { standard with defaultRadius := .nan false } = none := by decide
  rw [ofToml, parse_nanLine, Option.bind_some, hconfig]
  simp only [hfault]

end Config

end Skirmish
