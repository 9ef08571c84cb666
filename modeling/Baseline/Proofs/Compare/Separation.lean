import Baseline.Proofs.Scan.Visible
import Baseline.Settings

/-!
# Extensions that keep files apart

Extensions that are pairwise different can still name one file in two ways: with the
extensions `js` and `x.js`, the actual artifact of `a.js` is `a.x.js`, which a scan
takes for a source.  `Separated` says that no artifact is named as a source and that
no file is the reference of one source and the actual artifact of another.  For
extensions without separators this holds exactly if no extension ends in a dot and
another one (`separated_iff_suffixFree`).
-/

namespace Baseline
namespace Extensions

open Baseline.Path (artifact dotted hasExtension nameOf)
open Scan (IsNamed)

/-- No artifact of a source is named as a source, and no reference is an actual
artifact. -/
structure Separated (extensions : Extensions) : Prop where
  /-- No reference is named as a source. -/
  reference_unnamed {path : String} :
    hasExtension path extensions.source →
    IsNamed extensions.source
      (.ofPath (artifact path extensions.source extensions.reference)) = false
  /-- No actual artifact is named as a source. -/
  actual_unnamed {path : String} :
    hasExtension path extensions.source →
    IsNamed extensions.source
      (.ofPath (artifact path extensions.source extensions.actual)) = false
  /-- No file is both a reference and an actual artifact. -/
  apart {left right : String} :
    hasExtension left extensions.source →
    hasExtension right extensions.source →
    Location.ofPath (artifact left extensions.source extensions.reference) ≠
      .ofPath (artifact right extensions.source extensions.actual)

/-- The extension holds no slash. -/
def Slashless (extension : String) : Prop :=
  '/' ∉ extension.toList

instance (extension : String) : Decidable (Slashless extension) :=
  inferInstanceAs (Decidable ('/' ∉ extension.toList))

/-- No character of the extension sets off a part of a path. -/
def Plain (extension : String) : Prop :=
  ∀ char ∈ extension.toList, ¬Path.isSeparator char

instance (extension : String) : Decidable (Plain extension) :=
  List.decidableBAll (fun char => ¬Path.isSeparator char) extension.toList

/-- The extension holds neither dots nor slashes. -/
def Simple (extension : String) : Prop :=
  '.' ∉ extension.toList ∧ Slashless extension

instance (extension : String) : Decidable (Simple extension) :=
  inferInstanceAs (Decidable (_ ∧ _))

/-- Neither extension ends in a dot and the other one. -/
def Unrelated (left right : String) : Prop :=
  ¬dotted left <:+ dotted right ∧ ¬dotted right <:+ dotted left

instance (left right : String) : Decidable (Unrelated left right) :=
  inferInstanceAs (Decidable (_ ∧ _))

/-- No extension ends in a dot and another one. -/
def SuffixFree (extensions : Extensions) : Prop :=
  Unrelated extensions.source extensions.reference ∧
    Unrelated extensions.source extensions.actual ∧
      Unrelated extensions.reference extensions.actual

instance (extensions : Extensions) : Decidable extensions.SuffixFree :=
  inferInstanceAs (Decidable (_ ∧ _))

variable {extensions : Extensions} {left right source other : String}

theorem Plain.slashless {extension : String} (plain : Plain extension) : Slashless extension :=
  fun member => plain '/' member rfl

/-! ## Names that two extensions share -/

theorem Unrelated.append_ne
    {leftStem rightStem : List Char}
    (unrelated : Unrelated left right) :
    leftStem ++ dotted left ≠ rightStem ++ dotted right := by
  intro equal
  have leftEnds : dotted left <:+ rightStem ++ dotted right :=
    equal ▸ List.suffix_append leftStem (dotted left)
  rcases List.suffix_or_suffix_of_suffix leftEnds (List.suffix_append _ _) with shorter | longer
  · exact unrelated.1 shorter
  · exact unrelated.2 longer

/-- A stem that a name can have before an extension. -/
def IsStem (stem : List Char) : Prop :=
  stem ≠ [] ∧ ∀ char ∈ stem, ¬Path.isSeparator char

theorem isStem_cons
    {front : List Char}
    {extension : String}
    (ends : front <:+: dotted extension)
    (plain : Plain extension) :
    IsStem ('a' :: front) := by
  refine ⟨List.cons_ne_nil _ _, ?_⟩
  intro char member
  rcases List.mem_cons.mp member with rfl | inFront
  · decide
  · rcases List.mem_cons.mp (ends.subset inFront) with rfl | inExtension
    · decide
    · exact plain char inExtension

/-- If one extension ends in a dot and the other one, they share a name. -/
theorem exists_append_eq_of_suffix
    (rightPlain : Plain right)
    (ends : dotted left <:+ dotted right) :
    ∃ leftStem rightStem,
      IsStem leftStem ∧ IsStem rightStem ∧
        leftStem ++ dotted left = rightStem ++ dotted right := by
  obtain ⟨front, front_eq⟩ := ends
  have inside : front <:+: dotted right := ⟨[], dotted left, front_eq⟩
  refine ⟨'a' :: front, ['a'], isStem_cons inside rightPlain, ?_, ?_⟩
  · exact isStem_cons (List.nil_infix) rightPlain
  · rw [List.cons_append, front_eq, List.singleton_append]

/-- Extensions without separators are unrelated exactly if they share no name. -/
theorem unrelated_iff
    (leftPlain : Plain left)
    (rightPlain : Plain right) :
    Unrelated left right ↔
      ∀ leftStem rightStem, IsStem leftStem → IsStem rightStem →
        leftStem ++ dotted left ≠ rightStem ++ dotted right := by
  constructor
  · intro unrelated leftStem rightStem _ _
    exact unrelated.append_ne
  · intro noShared
    constructor
    · intro ends
      obtain ⟨leftStem, rightStem, leftIs, rightIs, equal⟩ :=
        exists_append_eq_of_suffix rightPlain ends
      exact noShared leftStem rightStem leftIs rightIs equal
    · intro ends
      obtain ⟨rightStem, leftStem, rightIs, leftIs, equal⟩ :=
        exists_append_eq_of_suffix leftPlain ends
      exact noShared leftStem rightStem leftIs rightIs equal.symm

/-! ## From suffixes to paths -/

/-- An artifact whose extension is unrelated to the one of sources is not named as a
source. -/
theorem Unrelated.isNamed_artifact_eq_false
    {path : String}
    (unrelated : Unrelated source other)
    (slashless : Slashless other)
    (named : hasExtension path source) :
    IsNamed source (.ofPath (artifact path source other)) = false := by
  obtain ⟨directory, stem, splits⟩ := Path.exists_splits_of_hasExtension named
  rw [Bool.eq_false_iff, splits.artifact_eq slashless, IsNamed, List.getLast?_concat]
  intro artifactNamed
  obtain ⟨front, _, front_eq⟩ := Path.exists_stem_of_hasExtension artifactNamed
  rw [Path.toList_nameOf] at front_eq
  exact unrelated.append_ne front_eq.symm

theorem Unrelated.artifact_ne
    {leftPath rightPath : String}
    (unrelated : Unrelated left right)
    (leftSlashless : Slashless left)
    (rightSlashless : Slashless right)
    (leftNamed : hasExtension leftPath source)
    (rightNamed : hasExtension rightPath source) :
    Location.ofPath (artifact leftPath source left) ≠
      .ofPath (artifact rightPath source right) := by
  obtain ⟨_, leftStem, leftSplits⟩ := Path.exists_splits_of_hasExtension leftNamed
  obtain ⟨_, rightStem, rightSplits⟩ := Path.exists_splits_of_hasExtension rightNamed
  rw [leftSplits.artifact_eq leftSlashless, rightSplits.artifact_eq rightSlashless]
  intro equal
  have names := List.singleton_inj.mp (List.append_inj_right' equal rfl)
  exact unrelated.append_ne (String.ofList_injective names)

theorem not_suffix_of_dotless
    (dotless : '.' ∉ right.toList)
    (different : left ≠ right) :
    ¬dotted left <:+ dotted right := by
  intro ends
  rcases List.suffix_cons_iff.mp ends with whole | inside
  · exact different (String.toList_injective (List.cons.inj whole).2)
  · exact dotless (inside.subset List.mem_cons_self)

/-- Without dots, different extensions are unrelated. -/
theorem unrelated_of_dotless
    (leftDotless : '.' ∉ left.toList)
    (rightDotless : '.' ∉ right.toList)
    (different : left ≠ right) :
    Unrelated left right :=
  ⟨not_suffix_of_dotless rightDotless different, not_suffix_of_dotless leftDotless different.symm⟩

theorem suffixFree_of_simple
    (distinct : extensions.clash? = none)
    (source : Simple extensions.source)
    (reference : Simple extensions.reference)
    (actual : Simple extensions.actual) :
    extensions.SuffixFree := by
  obtain ⟨sourceReference, sourceActual, referenceActual⟩ :=
    extensions.clash?_eq_none_iff.mp distinct
  exact ⟨unrelated_of_dotless source.1 reference.1 sourceReference,
    unrelated_of_dotless source.1 actual.1 sourceActual,
    unrelated_of_dotless reference.1 actual.1 referenceActual⟩

/-- If no extension ends in a dot and another one, files are kept apart. -/
theorem SuffixFree.separated
    (suffixFree : extensions.SuffixFree)
    (referenceSlashless : Slashless extensions.reference)
    (actualSlashless : Slashless extensions.actual) :
    extensions.Separated := by
  obtain ⟨sourceReference, sourceActual, referenceActual⟩ := suffixFree
  exact {
    reference_unnamed := sourceReference.isNamed_artifact_eq_false referenceSlashless
    actual_unnamed := sourceActual.isNamed_artifact_eq_false actualSlashless
    apart := referenceActual.artifact_ne referenceSlashless actualSlashless }

/-! ## From paths to suffixes -/

/-- A stem and the extension of sources make the path of a source, beside which its
artifacts have the same stem. -/
theorem IsStem.hasExtension_and_artifact
    {stem : List Char}
    (isStem : IsStem stem)
    (sourcePlain : Plain source) :
    hasExtension (nameOf stem source) source ∧
      ∀ other, artifact (nameOf stem source) source other = nameOf stem other := by
  refine ⟨Path.hasExtension_nameOf isStem.1 isStem.2 sourcePlain, ?_⟩
  intro other
  apply String.toList_injective
  rw [Path.toList_artifact (Path.toList_nameOf stem source), Path.toList_nameOf]

/-- If no artifact is named as a source, the extensions are unrelated. -/
theorem unrelated_of_unnamed
    (sourcePlain : Plain source)
    (otherPlain : Plain other)
    (unnamed : ∀ path, hasExtension path source →
      IsNamed source (.ofPath (artifact path source other)) = false) :
    Unrelated source other := by
  rw [unrelated_iff sourcePlain otherPlain]
  intro sourceStem otherStem sourceIs otherIs equal
  obtain ⟨named, artifacts⟩ := otherIs.hasExtension_and_artifact sourcePlain
  have artifactNamed : hasExtension (nameOf otherStem other) source := by
    rw [nameOf, ← equal]
    exact (sourceIs.hasExtension_and_artifact sourcePlain).1
  have clean := unnamed _ named
  rw [artifacts other, Scan.isNamed_ofPath artifactNamed] at clean
  cases clean

/-- Extensions without separators keep files apart exactly if none of them ends in a
dot and another one. -/
theorem separated_iff_suffixFree
    (sourcePlain : Plain extensions.source)
    (referencePlain : Plain extensions.reference)
    (actualPlain : Plain extensions.actual) :
    extensions.Separated ↔ extensions.SuffixFree := by
  constructor
  · intro separated
    refine ⟨unrelated_of_unnamed sourcePlain referencePlain fun _ => separated.reference_unnamed,
      unrelated_of_unnamed sourcePlain actualPlain fun _ => separated.actual_unnamed, ?_⟩
    rw [unrelated_iff referencePlain actualPlain]
    intro leftStem rightStem leftIs rightIs equal
    obtain ⟨leftNamed, leftArtifacts⟩ := leftIs.hasExtension_and_artifact sourcePlain
    obtain ⟨rightNamed, rightArtifacts⟩ := rightIs.hasExtension_and_artifact sourcePlain
    have different := separated.apart leftNamed rightNamed
    rw [leftArtifacts, rightArtifacts, nameOf, equal] at different
    exact different rfl
  · intro suffixFree
    exact suffixFree.separated referencePlain.slashless actualPlain.slashless

end Extensions
end Baseline
