import Baseline.Proofs.Compare.Separation
import Mathlib.Data.List.DropRight
import Mathlib.Data.Set.Function

/-!
# Sources paired with artifacts

The path of an artifact tells the path of its source.  It has the same folder
(`folder_artifact`), and giving the extension back gives the source back (`artifact_artifact`).
Extensions without dots are told apart in every path, whatever comes before them: a path is either
a source or the reference of one or an actual artifact (`artifact_ne`, `not_hasExtension_artifact`).
-/

namespace Baseline
namespace Path

open Extensions (Plain Unrelated unrelated_of_dotless)

/-- The text of a path up to its last separator, which belongs to it. -/
def folder (path : String) : List Char :=
  path.toList.rdropWhile fun char => !isSeparator char

variable
  {path left right source other reference actual extension : String}
  {stem tail : List Char}

/-- What holds no separator is not part of the folder. -/
theorem rdropWhile_append (plain : ∀ char ∈ tail, ¬isSeparator char) (stem : List Char) :
    (stem ++ tail).rdropWhile (fun char => !isSeparator char) =
      stem.rdropWhile fun char => !isSeparator char := by
  have all : ∀ char ∈ tail.reverse, (!isSeparator char) = true := by
    intro char member
    rw [Bool.not_eq_true', Bool.eq_false_iff]
    exact plain char (List.mem_reverse.mp member)
  rw [List.rdropWhile, List.reverse_append, List.dropWhile_append_of_pos all, List.rdropWhile]

theorem folder_eq
    (plain : Plain extension)
    (path_eq : path.toList = stem ++ dotted extension) :
    folder path = stem.rdropWhile fun char => !isSeparator char := by
  rw [folder, path_eq]
  apply rdropWhile_append
  intro char member
  rcases List.mem_cons.mp member with rfl | inExtension
  · decide
  · exact plain char inExtension

/-- The extension of a path is part of its name. -/
theorem plain_of_hasExtension (named : hasExtension path extension) : Plain extension := by
  rw [hasExtension, Bool.and_eq_true, List.isSuffixOf_iff_suffix] at named
  intro char member
  have inName := named.1.subset (List.mem_cons_of_mem _ member)
  have visible := List.mem_takeWhile_imp (List.mem_reverse.mp inName)
  rwa [Bool.not_eq_true', Bool.eq_false_iff] at visible

/-- An artifact lies in the folder of its source. -/
theorem folder_artifact (plain : Plain other) (named : hasExtension path source) :
    folder (artifact path source other) = folder path := by
  obtain ⟨stem, _, path_eq⟩ := exists_stem_of_hasExtension named
  rw [folder_eq plain (toList_artifact path_eq other),
    folder_eq (plain_of_hasExtension named) path_eq]

/-- The extension of the source, in place of that of an artifact, gives the source back. -/
theorem artifact_artifact (named : hasExtension path source) (other : String) :
    artifact (artifact path source other) other source = path := by
  obtain ⟨stem, _, path_eq⟩ := exists_stem_of_hasExtension named
  apply String.toList_injective
  rw [toList_artifact (toList_artifact path_eq other), path_eq]

/-- Sources are told apart by their artifacts. -/
theorem injOn_artifact (source other : String) :
    Set.InjOn (fun path => artifact path source other) {path | hasExtension path source} := by
  intro left leftNamed right rightNamed same
  rw [← artifact_artifact leftNamed other, ← artifact_artifact rightNamed other]
  exact congrArg (fun path => artifact path other source) same

/-- An artifact with an unrelated extension is not named as a source. -/
theorem not_hasExtension_artifact
    (unrelated : Unrelated source other)
    (named : hasExtension path source) :
    ¬hasExtension (artifact path source other) source := by
  intro artifactNamed
  obtain ⟨stem, _, path_eq⟩ := exists_stem_of_hasExtension named
  obtain ⟨front, _, artifact_eq⟩ := exists_stem_of_hasExtension artifactNamed
  rw [toList_artifact path_eq] at artifact_eq
  exact unrelated.append_ne artifact_eq.symm

theorem ne_artifact
    (unrelated : Unrelated source other)
    (leftNamed : hasExtension left source)
    (rightNamed : hasExtension right source) :
    left ≠ artifact right source other := by
  intro same
  rw [same] at leftNamed
  exact not_hasExtension_artifact unrelated rightNamed leftNamed

/-- No artifact is one for two unrelated extensions. -/
theorem artifact_ne
    (unrelated : Unrelated reference actual)
    (leftNamed : hasExtension left source)
    (rightNamed : hasExtension right source) :
    artifact left source reference ≠ artifact right source actual := by
  intro same
  obtain ⟨leftStem, _, left_eq⟩ := exists_stem_of_hasExtension leftNamed
  obtain ⟨rightStem, _, right_eq⟩ := exists_stem_of_hasExtension rightNamed
  have texts := congrArg String.toList same
  rw [toList_artifact left_eq, toList_artifact right_eq] at texts
  exact unrelated.append_ne texts

/-- A source and its artifact lie in one folder, and each tells the other.  With three different
extensions without dots, a source, the reference of a source and an actual artifact are three
different paths, and only the first one is named as a source. -/
theorem sources_pair_with_artifacts (source : String) :
    (∀ other, Plain other →
      (∀ path, hasExtension path source →
        folder (artifact path source other) = folder path ∧
          artifact (artifact path source other) other source = path) ∧
      Set.InjOn (fun path => artifact path source other) {path | hasExtension path source}) ∧
    ∀ reference actual, [source, reference, actual].Nodup →
      (∀ extension ∈ [source, reference, actual], '.' ∉ extension.toList) →
      ∀ left right, hasExtension left source → hasExtension right source →
        [left, artifact left source reference, artifact right source actual].Nodup ∧
          ¬hasExtension (artifact left source reference) source ∧
            ¬hasExtension (artifact right source actual) source := by
  refine ⟨fun other plain => ⟨fun path named => ?_, injOn_artifact source other⟩, ?_⟩
  · exact ⟨folder_artifact plain named, artifact_artifact named other⟩
  · intro reference actual distinct dotless left right leftNamed rightNamed
    obtain ⟨⟨sourceReference, sourceActual⟩, referenceActual⟩ :
        (source ≠ reference ∧ source ≠ actual) ∧ reference ≠ actual := by
      simpa using distinct
    obtain ⟨sourceDotless, referenceDotless, actualDotless⟩ :
        '.' ∉ source.toList ∧ '.' ∉ reference.toList ∧ '.' ∉ actual.toList := by
      simpa using dotless
    have fromReference := unrelated_of_dotless sourceDotless referenceDotless sourceReference
    have fromActual := unrelated_of_dotless sourceDotless actualDotless sourceActual
    have apart := unrelated_of_dotless referenceDotless actualDotless referenceActual
    refine ⟨?_, not_hasExtension_artifact fromReference leftNamed,
      not_hasExtension_artifact fromActual rightNamed⟩
    simpa using ⟨⟨ne_artifact fromReference leftNamed leftNamed,
      ne_artifact fromActual leftNamed rightNamed⟩, artifact_ne apart leftNamed rightNamed⟩

/-- Two sources in a folder with dots, of which one has its extension twice: an artifact with a
longer extension that ends in another one, and three extensions without dots, one of them
empty. -/
theorem sources_pair_with_artifacts_of_doubled :
    let path := "d.d\\e/a.js.js"
    let namesake := "d.d\\e/a.js"
    hasExtension path "js" ∧ hasExtension namesake "js" ∧ Plain "b.js" ∧
      ["js", "tree", ""].Nodup ∧ (∀ extension ∈ ["js", "tree", ""], '.' ∉ extension.toList) ∧
      artifact path "js" "b.js" = "d.d\\e/a.js.b.js" ∧
      folder (artifact path "js" "b.js") = "d.d\\e/".toList ∧
      artifact (artifact path "js" "b.js") "b.js" "js" = path ∧
      artifact namesake "js" "b.js" ≠ artifact path "js" "b.js" ∧
      [path, artifact path "js" "tree", artifact namesake "js" ""].Nodup ∧
      ¬hasExtension (artifact path "js" "tree") "js" ∧
      ¬hasExtension (artifact namesake "js" "") "js" := by
  intro path namesake
  have named : hasExtension path "js" := by decide +kernel
  have namesakeNamed : hasExtension namesake "js" := by decide +kernel
  have plain : Plain "b.js" := by decide +kernel
  have distinct : ["js", "tree", ""].Nodup := by decide +kernel
  have dotless : ∀ extension ∈ ["js", "tree", ""], '.' ∉ extension.toList := by decide +kernel
  obtain ⟨paired, apart⟩ := sources_pair_with_artifacts "js"
  obtain ⟨beside, injective⟩ := paired "b.js" plain
  obtain ⟨folder_eq, back⟩ := beside path named
  refine ⟨named, namesakeNamed, plain, distinct, dotless, by decide +kernel, ?_, back, ?_,
    apart "tree" "" distinct dotless path namesake named namesakeNamed⟩
  · rw [folder_eq]
    decide +kernel
  · exact injective.ne namesakeNamed named (by decide +kernel)

end Path
end Baseline
