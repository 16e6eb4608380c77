import Conformance.Decimal.Reading

/-!
# Exit codes as they are written

An exit code is written by digits behind an optional sign. No digit is a sign, so a word has one
reading at most.
-/
namespace Conformance.Decimal

/-- The word writes an exit code: digits, at least one of them, behind an optional sign, of a number
of 32 bits. -/
def WritesCode (word : List Char) (code : Int) : Prop :=
  ∃ digits, digits ≠ [] ∧ (∀ c ∈ digits, c.isDigit = true) ∧
    ((word = digits ∨ word = '+' :: digits) ∧ code = ofDigits digits ∨
      word = '-' :: digits ∧ code = -(ofDigits digits : Int)) ∧
    -2147483648 ≤ code ∧ code ≤ 2147483647

/-- Digits that were put behind a sign are read alike. -/
theorem ite_digits_eq_some {digits : List Char} {value n : Int} :
    (if digits.isEmpty || !digits.all Char.isDigit then none
      else if -0x80000000 ≤ value ∧ value ≤ 0x7fffffff then some value else none) = some n ↔
    digits ≠ [] ∧ (∀ c ∈ digits, c.isDigit = true) ∧
      n = value ∧ -2147483648 ≤ n ∧ n ≤ 2147483647 := by
  by_cases hd : digits.isEmpty || !digits.all Char.isDigit
  · rw [if_pos hd]
    refine ⟨nofun, fun ⟨hne, hdigits, _⟩ => ?_⟩
    have hall : digits.all Char.isDigit = true := List.all_eq_true.mpr hdigits
    simp [hall, hne] at hd
  · rw [if_neg hd]
    have hne : digits ≠ [] ∧ ∀ c ∈ digits, c.isDigit = true := by simpa using hd
    rw [Option.ite_none_right_eq_some, Option.some.injEq]
    constructor
    · rintro ⟨hrange, rfl⟩
      exact ⟨hne.1, hne.2, rfl, by omega, by omega⟩
    · rintro ⟨-, -, rfl, hlow, hhigh⟩
      exact ⟨by omega, rfl⟩

/-- Digits start with no sign. -/
theorem cons_ne_digits {c : Char} (hc : c.isDigit = false) {word digits : List Char}
    (h : ∀ d ∈ digits, d.isDigit = true) : c :: word ≠ digits := by
  rintro rfl
  rw [h c List.mem_cons_self] at hc
  cases hc

theorem code?_eq_some {word : List Char} {n : Int} : code? word = some n ↔ WritesCode word n := by
  unfold code? integer?
  split
  rename_i negative digits hsign
  rw [ite_digits_eq_some, WritesCode]
  split at hsign
  · obtain ⟨rfl, rfl⟩ := Prod.mk.inj hsign
    constructor
    · rintro ⟨hne, hdigits, rfl, hrange⟩
      exact ⟨_, hne, hdigits, .inr ⟨rfl, rfl⟩, hrange⟩
    · rintro ⟨ds, hne, hdigits, ⟨hword | hword, -⟩ | ⟨hword, rfl⟩, hrange⟩
      · exact absurd hword (cons_ne_digits (by decide) hdigits)
      · cases hword
      · obtain rfl := (List.cons.inj hword).2
        exact ⟨hne, hdigits, rfl, hrange⟩
  · obtain ⟨rfl, rfl⟩ := Prod.mk.inj hsign
    constructor
    · rintro ⟨hne, hdigits, rfl, hrange⟩
      exact ⟨_, hne, hdigits, .inl ⟨.inr rfl, rfl⟩, hrange⟩
    · rintro ⟨ds, hne, hdigits, ⟨hword | hword, rfl⟩ | ⟨hword, -⟩, hrange⟩
      · exact absurd hword (cons_ne_digits (by decide) hdigits)
      · obtain rfl := (List.cons.inj hword).2
        exact ⟨hne, hdigits, rfl, hrange⟩
      · cases hword
  · rename_i hminus hplus
    obtain ⟨rfl, rfl⟩ := Prod.mk.inj hsign
    constructor
    · rintro ⟨hne, hdigits, rfl, hrange⟩
      exact ⟨_, hne, hdigits, .inl ⟨.inl rfl, rfl⟩, hrange⟩
    · rintro ⟨ds, hne, hdigits, ⟨hword | hword, rfl⟩ | ⟨hword, -⟩, hrange⟩
      · obtain rfl := hword
        exact ⟨hne, hdigits, rfl, hrange⟩
      · exact absurd hword (hplus _)
      · exact absurd hword (hminus _)

theorem WritesCode.unique {word : List Char} {m n : Int} (hm : WritesCode word m)
    (hn : WritesCode word n) : m = n :=
  Option.some.inj ((code?_eq_some.mpr hm).symm.trans (code?_eq_some.mpr hn))

end Conformance.Decimal
