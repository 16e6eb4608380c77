/-!
# Accepted exit codes

An expectation is a set of exit codes that is not empty. It is kept as an ascending list.
-/
namespace Conformance

/-- Adds a code to an ascending list that may hold it. -/
def insertCode (code : Int) : List Int → List Int
  | [] => [code]
  | c :: cs =>
    if code < c then code :: c :: cs
    else if code = c then c :: cs else c :: insertCode code cs

theorem mem_insertCode (code x : Int) (cs : List Int) :
    x ∈ insertCode code cs ↔ x = code ∨ x ∈ cs := by
  induction cs with
  | nil => simp [insertCode]
  | cons c cs ih =>
    unfold insertCode
    split
    · simp
    · split
      · rename_i h; simp [h]
      · simp only [List.mem_cons, ih]
        grind

theorem insertCode_ne_nil (code : Int) (cs : List Int) : insertCode code cs ≠ [] := by
  cases cs with
  | nil => simp [insertCode]
  | cons c cs =>
    unfold insertCode
    split
    · simp
    · split <;> simp

theorem insertCode_ascending (code : Int) (cs : List Int) (h : cs.Pairwise (· < ·)) :
    (insertCode code cs).Pairwise (· < ·) := by
  induction cs with
  | nil => simp [insertCode]
  | cons c cs ih =>
    unfold insertCode
    rw [List.pairwise_cons] at h
    split
    · rename_i hc
      refine List.pairwise_cons.2 ⟨fun a ha => ?_, List.pairwise_cons.2 h⟩
      rcases List.mem_cons.1 ha with rfl | ha
      · exact hc
      · exact Int.lt_trans hc (h.1 a ha)
    · split
      · exact List.pairwise_cons.2 h
      · rename_i h1 h2
        refine List.pairwise_cons.2 ⟨fun a ha => ?_, ih h.2⟩
        rcases (mem_insertCode code a cs).1 ha with rfl | ha
        · omega
        · exact h.1 a ha

structure CodeSet where
  codes : List Int
  ascending : codes.Pairwise (· < ·)
  nonempty : codes ≠ []
deriving DecidableEq

namespace CodeSet

/-- The default expectation: zero only. -/
def success : CodeSet :=
  ⟨[0], by simp, by simp⟩

instance : Inhabited CodeSet := ⟨success⟩

/-- The set of the given codes, if there are any. -/
def ofList? : List Int → Option CodeSet
  | [] => none
  | c :: cs =>
    some ⟨insertCode c (cs.foldr insertCode []), insertCode_ascending _ _ (by
      induction cs with
      | nil => simp
      | cons d ds ih => exact insertCode_ascending _ _ ih), insertCode_ne_nil _ _⟩

def contains (s : CodeSet) (code : Int) : Bool :=
  s.codes.contains code

def isSuccessOnly (s : CodeSet) : Bool :=
  s.codes == [0]

def text (s : CodeSet) : String :=
  "[" ++ ", ".intercalate (s.codes.map toString) ++ "]"

theorem contains_ofList? {cs : List Int} {s : CodeSet} (h : ofList? cs = some s) (x : Int) :
    s.contains x = true ↔ x ∈ cs := by
  cases cs with
  | nil => simp [ofList?] at h
  | cons c cs =>
    simp only [ofList?, Option.some.injEq] at h
    subst h
    have : ∀ ds : List Int, x ∈ ds.foldr insertCode [] ↔ x ∈ ds := by
      intro ds
      induction ds with
      | nil => simp
      | cons d ds ih => simp [mem_insertCode, ih]
    simp [contains, mem_insertCode, this]

theorem ofList?_eq_none {cs : List Int} : ofList? cs = none ↔ cs = [] := by
  cases cs <;> simp [ofList?]

end CodeSet
end Conformance
