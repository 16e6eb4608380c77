/-!
# Language extensions

The extensions that a compiler may implement form a fixed registry. A set of them is kept as a list
in registry order without repetition, so equal sets are equal lists.
-/
namespace Conformance

inductive Feature
  | boolThen
  | base
  | funExp
  | multiVal
  | unary
deriving DecidableEq, Repr

namespace Feature

/-- The registry, in its order. -/
def registry : List Feature :=
  [.boolThen, .base, .funExp, .multiVal, .unary]

def name : Feature → String
  | .boolThen => "BOOLTHEN"
  | .base => "BASE"
  | .funExp => "FUNEXP"
  | .multiVal => "MULTIVAL"
  | .unary => "UNARY"

def ofName? (s : String) : Option Feature :=
  registry.find? fun f => f.name == s

def registryNames : String :=
  ", ".intercalate (registry.map name)

theorem mem_registry (f : Feature) : f ∈ registry := by
  cases f <;> decide

theorem ofName?_name (f : Feature) : ofName? f.name = some f := by
  cases f <;> decide

theorem name_of_ofName? {s : String} {f : Feature} (h : ofName? s = some f) : f.name = s := by
  have := List.find?_some h
  simpa using this

end Feature

/-- A set of extensions. -/
structure FeatureSet where
  has : Feature → Bool

namespace FeatureSet

def empty : FeatureSet :=
  ⟨fun _ => false⟩

instance : Inhabited FeatureSet := ⟨empty⟩

def ofList (fs : List Feature) : FeatureSet :=
  ⟨fun f => fs.contains f⟩

/-- The members in registry order. -/
def toList (s : FeatureSet) : List Feature :=
  Feature.registry.filter s.has

def isEmpty (s : FeatureSet) : Bool :=
  s.toList.isEmpty

def inter (s t : FeatureSet) : FeatureSet :=
  ⟨fun f => s.has f && t.has f⟩

def diff (s t : FeatureSet) : FeatureSet :=
  ⟨fun f => s.has f && !t.has f⟩

/-- The first member in registry order. -/
def least? (s : FeatureSet) : Option Feature :=
  s.toList.head?

def text (s : FeatureSet) : String :=
  "[" ++ ", ".intercalate (s.toList.map Feature.name) ++ "]"

theorem mem_toList (s : FeatureSet) (f : Feature) : f ∈ s.toList ↔ s.has f = true := by
  simp [toList, Feature.mem_registry]

theorem ext_toList {s t : FeatureSet} (h : s.toList = t.toList) : s = t := by
  cases s with
  | mk p =>
    cases t with
    | mk q =>
      congr
      funext f
      have hp := mem_toList ⟨p⟩ f
      have hq := mem_toList ⟨q⟩ f
      rw [h] at hp
      exact Bool.eq_iff_iff.2 (hp.symm.trans hq)

instance : DecidableEq FeatureSet := fun s t =>
  if h : s.toList = t.toList then isTrue (ext_toList h) else isFalse fun e => h (e ▸ rfl)

end FeatureSet

/-- The set of the extensions with these names, or the first name that is not registered. -/
def parseFeatures (names : List String) : Except String FeatureSet :=
  match names.find? fun n => (Feature.ofName? n).isNone with
  | some unknown => .error unknown
  | none => .ok (.ofList (names.filterMap Feature.ofName?))

end Conformance
