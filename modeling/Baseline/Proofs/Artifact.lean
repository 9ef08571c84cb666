import Baseline.Proofs.Location
import Mathlib.Data.List.TakeWhile

/-!
# Artifacts beside their sources

A path with the source extension is a directory and a name, and the name is a stem
that is not empty and the extension (`exists_name_of_hasExtension`).  Artifacts lie
in the directory of their source; only the extension after the stem changes, unless it
holds slashes (`exists_splits_of_hasExtension`).  Any other path and its artifacts lie in
one directory too, unless they lead to the directory itself (`exists_isAt_artifact`).
-/

namespace Baseline
namespace Path

open Location (IsProper)

variable {path name extension other : String} {stem : List Char}

theorem exists_last_slash (text : List Char) :
    '/' ∉ text ∨ ∃ front name, text = front ++ '/' :: name ∧ '/' ∉ name := by
  induction text with
  | nil => exact .inl List.not_mem_nil
  | cons char rest inductionHypothesis =>
      rcases inductionHypothesis with absent | ⟨front, name, rest_eq, absent⟩
      · by_cases slash : char = '/'
        · exact .inr ⟨[], rest, by rw [slash, List.nil_append], absent⟩
        · exact .inl (List.not_mem_cons_of_ne_of_not_mem (Ne.symm slash) absent)
      · exact .inr ⟨char :: front, name, by rw [rest_eq, List.cons_append], absent⟩

theorem lastPart_isSuffix (text : List Char) : lastPart text <:+ text := by
  have front := List.takeWhile_prefix (l := text.reverse) fun char => !isSeparator char
  rw [lastPart]
  simpa using List.reverse_suffix.mpr front

/-- A path with an extension is a stem and the extension. -/
theorem exists_stem_of_hasExtension (named : hasExtension path extension) :
    ∃ stem, stem ≠ [] ∧ path.toList = stem ++ dotted extension := by
  rw [hasExtension, Bool.and_eq_true, decide_eq_true_eq, List.isSuffixOf_iff_suffix] at named
  obtain ⟨front, part_eq⟩ := lastPart_isSuffix path.toList
  obtain ⟨⟨stem, stem_eq⟩, longer⟩ := named
  rw [← stem_eq, List.length_append] at longer
  refine ⟨front ++ stem, ?_, ?_⟩
  · intro empty
    have stemNil := (List.append_eq_nil_iff.mp empty).2
    rw [stemNil, List.length_nil] at longer
    omega
  · rw [List.append_assoc, stem_eq, part_eq]

/-- The extension of an artifact takes the place of the source extension. -/
theorem toList_artifact
    (path_eq : path.toList = stem ++ dotted extension)
    (other : String) :
    (artifact path extension other).toList = stem ++ dotted other := by
  have suffix : (dotted extension).isSuffixOf path.toList := by
    rw [List.isSuffixOf_iff_suffix, path_eq]
    exact List.suffix_append _ _
  rw [artifact, String.toList_ofList, Path.stem, if_pos suffix, path_eq, List.length_append,
    Nat.add_sub_cancel, List.take_left]

theorem isProper_of_stem
    (nonempty : stem ≠ [])
    (name_eq : name.toList = stem ++ dotted extension)
    (noSlash : '/' ∉ name.toList) :
    IsProper name := by
  refine ⟨?_, noSlash⟩
  obtain ⟨char, rest, rfl⟩ := List.exists_cons_of_ne_nil nonempty
  rw [name_eq, dotted]
  simp [Location.isName]

/-- A path with an extension leads to a name with that extension in the directory in
which all its artifacts lie. -/
theorem exists_name_of_hasExtension (named : hasExtension path extension) :
    ∃ directory name,
      IsProper name ∧
        hasExtension name extension ∧
          Location.ofPath path = .ofPath directory ++ [name] ∧
            ∀ other, Location.ofPath (artifact path extension other) =
              .ofPath directory ++ .ofPath (artifact name extension other) := by
  rcases exists_last_slash path.toList with absent | ⟨front, name, path_eq, absent⟩
  · obtain ⟨stem, nonempty, stem_eq⟩ := exists_stem_of_hasExtension named
    have proper := isProper_of_stem nonempty stem_eq absent
    refine ⟨"", path, proper, named, ?_, fun other => ?_⟩
    · rw [Location.ofPath_name proper, Location.ofPath_empty, List.nil_append]
    · rw [Location.ofPath_empty, List.nil_append]
  · have named' : hasExtension (String.ofList name) extension := by
      have split :=
        hasExtension_append_separator (rfl : isSeparator '/' = true) front name extension
      rwa [← split, ← path_eq, String.ofList_toList]
    obtain ⟨stem, nonempty, stem_eq⟩ := exists_stem_of_hasExtension named'
    have noSlash : '/' ∉ (String.ofList name).toList := by rwa [String.toList_ofList]
    have proper := isProper_of_stem nonempty stem_eq noSlash
    have path_eq' : path = String.ofList front ++ "/" ++ String.ofList name := by
      apply String.toList_injective
      simp [path_eq]
    refine ⟨String.ofList front, String.ofList name, proper, named', ?_, fun other => ?_⟩
    · rw [path_eq', Location.ofPath_append_slash, Location.ofPath_name proper]
    · have path_stem : path.toList = front ++ '/' :: stem ++ dotted extension := by
        rw [String.toList_ofList] at stem_eq
        rw [path_eq, stem_eq, List.append_assoc, List.cons_append]
      have artifact_eq : artifact path extension other =
          String.ofList front ++ "/" ++ artifact (String.ofList name) extension other := by
        apply String.toList_injective
        rw [toList_artifact path_stem, String.toList_append, toList_artifact stem_eq]
        simp
      rw [artifact_eq, Location.ofPath_append_slash]

/-! ## Names made of a stem and an extension -/

/-- The name that a stem and an extension make. -/
def nameOf (stem : List Char) (extension : String) : String :=
  String.ofList (stem ++ dotted extension)

theorem toList_nameOf (stem : List Char) (extension : String) :
    (nameOf stem extension).toList = stem ++ dotted extension :=
  String.toList_ofList

theorem nameOf_inj : nameOf stem extension = nameOf stem other ↔ extension = other := by
  constructor
  · intro equal
    have dots := List.append_cancel_left (String.ofList_injective equal)
    exact String.toList_injective (List.cons.inj dots).2
  · exact congrArg (nameOf stem)

theorem isProper_nameOf
    (nonempty : stem ≠ [])
    (noSlash : '/' ∉ stem)
    (slashless : '/' ∉ extension.toList) :
    IsProper (nameOf stem extension) := by
  refine isProper_of_stem nonempty (toList_nameOf stem extension) ?_
  rw [toList_nameOf, dotted, List.mem_append, List.mem_cons]
  rintro (inStem | slash | inExtension)
  · exact noSlash inStem
  · exact absurd slash (by decide)
  · exact slashless inExtension

/-- A path leads to the name that a stem and the extension make in a directory, and
extensions without slashes make artifacts in that directory whose names have the same
stem. -/
structure Splits (path extension directory : String) (stem : List Char) : Prop where
  /-- The name is proper. -/
  proper : IsProper (nameOf stem extension)
  /-- The name has the extension. -/
  named : hasExtension (nameOf stem extension) extension
  /-- The name lies in the directory. -/
  location_eq : Location.ofPath path = .ofPath directory ++ [nameOf stem extension]
  /-- The names of artifacts are proper. -/
  artifact_proper {other : String} : '/' ∉ other.toList → IsProper (nameOf stem other)
  /-- Artifacts lie in the directory. -/
  artifact_eq {other : String} :
    '/' ∉ other.toList →
    Location.ofPath (artifact path extension other) = .ofPath directory ++ [nameOf stem other]

theorem exists_splits_of_hasExtension (named : hasExtension path extension) :
    ∃ directory stem, Splits path extension directory stem := by
  obtain ⟨directory, name, proper, nameNamed, path_eq, artifacts⟩ :=
    exists_name_of_hasExtension named
  obtain ⟨stem, nonempty, stem_eq⟩ := exists_stem_of_hasExtension nameNamed
  have name_eq : name = nameOf stem extension := by
    rw [nameOf, ← stem_eq, String.ofList_toList]
  have noSlash : '/' ∉ stem := fun member => proper.2 (stem_eq ▸ List.mem_append_left _ member)
  refine ⟨directory, stem, name_eq ▸ proper, name_eq ▸ nameNamed, name_eq ▸ path_eq,
    isProper_nameOf nonempty noSlash, ?_⟩
  intro other slashless
  have artifact_eq : artifact name extension other = nameOf stem other := by
    rw [nameOf, ← toList_artifact stem_eq other, String.ofList_toList]
  rw [artifacts other, artifact_eq,
    Location.ofPath_name (isProper_nameOf nonempty noSlash slashless)]

/-- Sources with one artifact are one. -/
theorem ofPath_eq_of_artifact_eq
    {left right : String}
    (leftNamed : hasExtension left extension)
    (rightNamed : hasExtension right extension)
    (slashless : '/' ∉ other.toList)
    (same : Location.ofPath (artifact left extension other) =
      .ofPath (artifact right extension other)) :
    Location.ofPath left = .ofPath right := by
  obtain ⟨_, leftStem, leftSplits⟩ := exists_splits_of_hasExtension leftNamed
  obtain ⟨_, rightStem, rightSplits⟩ := exists_splits_of_hasExtension rightNamed
  rw [leftSplits.artifact_eq slashless, rightSplits.artifact_eq slashless] at same
  obtain ⟨directories, names⟩ := List.append_inj' same rfl
  have stems := List.append_cancel_right (String.ofList_injective (List.singleton_inj.mp names))
  rw [leftSplits.location_eq, rightSplits.location_eq, directories, stems]

theorem lastPart_eq_self {text : List Char} (plain : ∀ char ∈ text, ¬isSeparator char) :
    lastPart text = text := by
  have whole : text.reverse.takeWhile (fun char => !isSeparator char) = text.reverse := by
    rw [List.takeWhile_eq_self_iff]
    intro char member
    rw [Bool.not_eq_true', Bool.eq_false_iff]
    exact plain char (List.mem_reverse.mp member)
  rw [lastPart, whole, List.reverse_reverse]

/-- A stem without separators and an extension make a name with the extension. -/
theorem hasExtension_nameOf
    (nonempty : stem ≠ [])
    (stemPlain : ∀ char ∈ stem, ¬isSeparator char)
    (extensionPlain : ∀ char ∈ extension.toList, ¬isSeparator char) :
    hasExtension (nameOf stem extension) extension := by
  have plain : ∀ char ∈ stem ++ dotted extension, ¬isSeparator char := by
    intro char member
    rw [dotted, List.mem_append, List.mem_cons] at member
    rcases member with inStem | rfl | inExtension
    · exact stemPlain char inStem
    · decide
    · exact extensionPlain char inExtension
  have longer := List.length_pos_iff.mpr nonempty
  rw [hasExtension, toList_nameOf, lastPart_eq_self plain, Bool.and_eq_true, decide_eq_true_eq,
    List.isSuffixOf_iff_suffix, List.length_append]
  exact ⟨List.suffix_append _ _, by omega⟩

/-! ## Where artifacts lie -/

/-- The location is the directory or lies one name below it. -/
def IsAt (directory location : Location) : Prop :=
  location = directory ∨ ∃ name, location = directory ++ [name]

theorem ofPath_part {part : List Char} (noSlash : '/' ∉ part) :
    Location.ofPath (String.ofList part) = [] ∨
      ∃ name, Location.ofPath (String.ofList part) = [name] := by
  rw [Location.ofPath, String.toList_ofList, Text.pieces_eq_singleton noSlash]
  cases counts : Location.isName part with
  | false => exact .inl (by simp [counts])
  | true => exact .inr ⟨String.ofList part, by simp [counts]⟩

/-- Paths with one front before their last slashes lie in one directory, or lead to it. -/
theorem exists_isAt_append (front : List Char) :
    ∃ directory, ∀ tail, '/' ∉ tail → IsAt directory (.ofPath (String.ofList (front ++ tail))) := by
  rcases exists_last_slash front with absent | ⟨outer, name, front_eq, absent⟩
  · refine ⟨[], fun tail noSlash => ?_⟩
    exact ofPath_part (List.not_mem_append absent noSlash)
  · refine ⟨.ofPath (String.ofList outer), fun tail noSlash => ?_⟩
    have path_eq : String.ofList (front ++ tail) =
        String.ofList outer ++ "/" ++ String.ofList (name ++ tail) := by
      apply String.toList_injective
      simp [front_eq]
    rw [path_eq, Location.ofPath_append_slash]
    rcases ofPath_part (List.not_mem_append absent noSlash) with none | ⟨last, one⟩
    · rw [none, List.append_nil]
      exact .inl rfl
    · rw [one]
      exact .inr ⟨last, rfl⟩

theorem not_mem_dotted (slashless : '/' ∉ extension.toList) : '/' ∉ dotted extension :=
  List.not_mem_cons_of_ne_of_not_mem (by decide) slashless

theorem exists_tail_of_stem (path : String) (slashless : '/' ∉ extension.toList) :
    ∃ tail, '/' ∉ tail ∧ path.toList = Path.stem path extension ++ tail := by
  unfold Path.stem
  split
  next ends =>
      obtain ⟨front, path_eq⟩ := List.isSuffixOf_iff_suffix.mp ends
      refine ⟨dotted extension, not_mem_dotted slashless, ?_⟩
      rw [← path_eq, List.length_append, Nat.add_sub_cancel, List.take_left]
  next => exact ⟨[], List.not_mem_nil, (List.append_nil _).symm⟩

/-- With extensions without slashes, any path and its artifact lie in one directory, or
lead to it. -/
theorem exists_isAt_artifact
    (path : String)
    (slashless : '/' ∉ extension.toList)
    (otherSlashless : '/' ∉ other.toList) :
    ∃ directory,
      IsAt directory (.ofPath path) ∧ IsAt directory (.ofPath (artifact path extension other)) := by
  obtain ⟨tail, noSlash, path_eq⟩ := exists_tail_of_stem path slashless
  obtain ⟨directory, inside⟩ := exists_isAt_append (Path.stem path extension)
  refine ⟨directory, ?_, inside _ (not_mem_dotted otherSlashless)⟩
  have pathInside := inside tail noSlash
  rwa [← path_eq, String.ofList_toList] at pathInside

end Path
end Baseline
