import Baseline.Location
import Baseline.Path

/-!
# From paths to locations

A path is read as a location part by part, so appending parts to a path appends
names to its location.  Locations whose names are proper are told apart by their
paths, and entries listed in a directory lie one name below it.
-/

namespace Baseline

/-! ## Pieces -/

namespace Text

variable {separator : Char}

theorem pieces_append_separator (left right : List Char) :
    pieces separator (left ++ separator :: right) =
      pieces separator left ++ pieces separator right := by
  induction left with
  | nil => exact pieces_separator separator right
  | cons char rest inductionHypothesis =>
      by_cases same : char = separator
      · subst same
        rw [List.cons_append, pieces_separator, pieces_separator, inductionHypothesis,
          List.cons_append]
      · obtain ⟨piece, later, rest_eq⟩ :=
          List.exists_cons_of_ne_nil (pieces_ne_nil separator rest)
        rw [rest_eq, List.cons_append] at inductionHypothesis
        rw [List.cons_append, pieces_cons_of_ne same inductionHypothesis,
          pieces_cons_of_ne same rest_eq, List.cons_append]

/-- A text without the separator is one piece. -/
theorem pieces_eq_singleton {text : List Char} (absent : separator ∉ text) :
    pieces separator text = [text] := by
  induction text with
  | nil => rfl
  | cons char rest inductionHypothesis =>
      obtain ⟨different, restAbsent⟩ := not_or.mp (mt List.mem_cons.mpr absent)
      exact pieces_cons_of_ne (Ne.symm different) (inductionHypothesis restAbsent)

end Text

namespace Location

/-- The text is a name of its own: it counts as a name, and holds no slash. -/
def IsProper (name : String) : Prop :=
  isName name.toList ∧ '/' ∉ name.toList

instance (name : String) : Decidable (IsProper name) :=
  inferInstanceAs (Decidable (_ ∧ _))

/-- All names of the location are proper. -/
def Proper (location : Location) : Prop :=
  ∀ name ∈ location, IsProper name

instance (location : Location) : Decidable location.Proper :=
  inferInstanceAs (Decidable (∀ name ∈ location, IsProper name))

variable {location left right : Location} {name : String}

theorem Proper.append (leftProper : left.Proper) (rightProper : right.Proper) :
    (left ++ right).Proper := by
  intro name member
  exact (List.mem_append.mp member).elim (leftProper name) (rightProper name)

theorem Proper.snoc (proper : location.Proper) (nameProper : IsProper name) :
    (location ++ [name]).Proper :=
  proper.append (List.forall_mem_singleton.mpr nameProper)

theorem Proper.parent (proper : location.Proper) : location.parent.Proper :=
  fun name member => proper name (List.dropLast_subset location member)

theorem ofPath_proper (path : String) : (ofPath path).Proper := by
  intro name member
  obtain ⟨part, filtered, rfl⟩ := List.mem_map.mp member
  obtain ⟨piece, counts⟩ := List.mem_filter.mp filtered
  rw [IsProper, String.toList_ofList]
  exact ⟨counts, Text.not_mem_of_mem_pieces piece⟩

/-! ## Paths read part by part -/

@[simp] theorem ofPath_empty : ofPath "" = [] := rfl

theorem ofPath_append_slash (left right : String) :
    ofPath (left ++ "/" ++ right) = ofPath left ++ ofPath right := by
  have characters : (left ++ "/" ++ right).toList = left.toList ++ '/' :: right.toList := by
    rw [String.toList_append, String.toList_append, List.append_assoc]
    rfl
  rw [ofPath, characters, Text.pieces_append_separator, List.filter_append, List.map_append]
  rfl

theorem ofPath_name (proper : IsProper name) : ofPath name = [name] := by
  rw [ofPath, Text.pieces_eq_singleton proper.2, List.filter_cons_of_pos proper.1]
  simp

theorem toPath_singleton (name : String) : toPath [name] = name := by
  simp [toPath]

theorem toPath_cons_cons (name second : String) (rest : Location) :
    toPath (name :: second :: rest) = name ++ "/" ++ toPath (second :: rest) := by
  simp [toPath, String.append_assoc]

/-- A location with proper names is read back from its path. -/
theorem ofPath_toPath (proper : location.Proper) : ofPath location.toPath = location := by
  induction location with
  | nil => rfl
  | cons name rest inductionHypothesis =>
      obtain ⟨nameProper, restProper⟩ := List.forall_mem_cons.mp proper
      cases rest with
      | nil => rw [toPath_singleton, ofPath_name nameProper]
      | cons second rest =>
          rw [toPath_cons_cons, ofPath_append_slash, ofPath_name nameProper,
            inductionHypothesis restProper]
          rfl

/-- Locations with proper names are told apart by their paths. -/
theorem toPath_inj
    (leftProper : left.Proper)
    (rightProper : right.Proper)
    (equal : left.toPath = right.toPath) :
    left = right := by
  rw [← ofPath_toPath leftProper, equal, ofPath_toPath rightProper]

end Location

/-! ## Entries of a directory -/

namespace Path

theorem exists_of_isSuffixOf_slash
    {directory : String}
    (ends : "/".toList.isSuffixOf directory.toList) :
    ∃ front, directory = front ++ "/" := by
  obtain ⟨front, directory_eq⟩ := List.isSuffixOf_iff_suffix.mp ends
  refine ⟨String.ofList front, String.toList_injective ?_⟩
  rw [String.toList_append, String.toList_ofList, directory_eq]

/-- The path without a slash at its end; joining puts a slash and the entry after it. -/
def trunk (path : String) : String :=
  if "/".toList.isSuffixOf path.toList then String.ofList path.toList.dropLast else path

theorem trunk_append_slash (front : String) : trunk (front ++ "/") = front := by
  have ends : "/".toList.isSuffixOf (front ++ "/").toList := by
    rw [String.toList_append]
    exact List.isSuffixOf_iff_suffix.mpr (List.suffix_append _ _)
  rw [trunk, if_pos ends, String.toList_append]
  exact (congrArg String.ofList (List.dropLast_concat ..)).trans String.ofList_toList

theorem trunk_eq_or (path : String) : path = trunk path ++ "/" ∨ path = trunk path := by
  by_cases ends : "/".toList.isSuffixOf path.toList
  · obtain ⟨front, rfl⟩ := exists_of_isSuffixOf_slash ends
    exact .inl (by rw [trunk_append_slash])
  · exact .inr (by rw [trunk, if_neg ends])

theorem join_eq_trunk (directory name : String) :
    join directory "/" name = trunk directory ++ "/" ++ name := by
  by_cases ends : "/".toList.isSuffixOf directory.toList
  · rw [join, if_pos ends]
    obtain ⟨front, rfl⟩ := exists_of_isSuffixOf_slash ends
    rw [trunk_append_slash]
  · rw [join, if_neg ends, trunk, if_neg ends]

/-- Joining puts exactly one slash before the entry. -/
theorem join_eq_append (directory name : String) :
    ∃ front, join directory "/" name = front ++ "/" ++ name ∧
      Location.ofPath front = .ofPath directory := by
  refine ⟨trunk directory, join_eq_trunk directory name, ?_⟩
  rcases trunk_eq_or directory with ends | same
  · have ended := Location.ofPath_append_slash (trunk directory) ""
    rw [String.append_empty, ← ends, Location.ofPath_empty, List.append_nil] at ended
    exact ended.symm
  · rw [← same]

/-- The path of an entry leads one name below the directory. -/
theorem ofPath_join
    (directory : String)
    {name : String}
    (proper : Location.IsProper name) :
    Location.ofPath (join directory "/" name) = .ofPath directory ++ [name] := by
  obtain ⟨front, path_eq, front_eq⟩ := join_eq_append directory name
  rw [path_eq, Location.ofPath_append_slash, Location.ofPath_name proper, front_eq]

/-- The last part of a path does not depend on what comes before a separator. -/
theorem lastPart_append_separator
    {separator : Char}
    (separates : isSeparator separator)
    (front name : List Char) :
    lastPart (front ++ separator :: name) = lastPart name := by
  have stops : (separator :: front.reverse).takeWhile (fun char => !isSeparator char) = [] := by
    rw [List.takeWhile_cons, separates]
    rfl
  unfold lastPart
  rw [List.reverse_append, List.reverse_cons, List.append_assoc, List.singleton_append,
    List.takeWhile_append, stops, List.append_nil]
  split
  next whole =>
      congr 1
      exact ((List.takeWhile_prefix _).eq_of_length whole).symm
  next => rfl

theorem hasExtension_append_separator
    {separator : Char}
    (separates : isSeparator separator)
    (front name : List Char)
    (extension : String) :
    hasExtension (String.ofList (front ++ separator :: name)) extension =
      hasExtension (String.ofList name) extension := by
  unfold hasExtension
  rw [String.toList_ofList, String.toList_ofList, lastPart_append_separator separates]

/-- An entry has the extension that its name has. -/
theorem hasExtension_join (directory name extension : String) :
    hasExtension (join directory "/" name) extension = hasExtension name extension := by
  obtain ⟨front, path_eq, _⟩ := join_eq_append directory name
  have characters : front ++ "/" ++ name =
      String.ofList (front.toList ++ '/' :: name.toList) := by
    apply String.toList_injective
    simp
  rw [path_eq, characters, hasExtension_append_separator rfl, String.ofList_toList]

end Path
end Baseline
