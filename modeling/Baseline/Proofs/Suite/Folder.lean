import Baseline.Proofs.Scan.Walk

/-!
# One directory of files

The store `folder files` holds one directory with some files.  It is reachable, every
file is read by its name, and a scan finds the files with the right extension in their
order (`scan_folder`).
-/

namespace Baseline
namespace Store

/-- Files can lie in one directory: their names are proper and pairwise different. -/
structure IsListing (files : List (String × String)) : Prop where
  /-- The names are proper. -/
  proper : ∀ file ∈ files, Location.IsProper file.1
  /-- The names are pairwise different. -/
  distinct : (files.map Prod.fst).Nodup

instance (files : List (String × String)) : Decidable (IsListing files) :=
  decidable_of_iff
    ((∀ file ∈ files, Location.IsProper file.1) ∧ (files.map Prod.fst).Nodup)
    ⟨fun both => ⟨both.1, both.2⟩, fun listing => ⟨listing.proper, listing.distinct⟩⟩

/-- The store with one directory that holds files with some names and contents. -/
def folder (files : List (String × String)) : Store where
  entries :=
    (["root"], .directory) :: files.map fun file => (["root", file.1], .file file.2)

/-- The path of a file in the directory. -/
def filePath (name : String) : String :=
  Path.join "root" "/" name

variable {files : List (String × String)} {name content : String}

theorem ofPath_filePath (proper : Location.IsProper name) :
    Location.ofPath (filePath name) = ["root", name] :=
  Path.ofPath_join "root" proper

theorem folder_linkless (files : List (String × String)) : (folder files).Linkless := by
  intro location target member
  rcases List.mem_cons.mp member with equal | member
  · cases equal
  · obtain ⟨_, _, equal⟩ := List.mem_map.mp member
    cases equal

theorem find?_folder_root (files : List (String × String)) :
    (folder files).find? ["root"] = some .directory :=
  List.lookup_cons_self

theorem mem_folder_iff :
    ["root", name] ∈ (folder files).entries.map Prod.fst ↔ name ∈ files.map Prod.fst := by
  simp [folder]

/-! ## Making the store -/

theorem insertDirectory_of_isSome
    {store : Store}
    {location : Location}
    (there : (store.find? location).isSome) :
    store.insertDirectory location = store := by
  rw [insertDirectory, if_pos (.inr there)]

theorem folder_nil : folder [] = empty.withDirectory "root" := by
  have location_eq : Location.ofPath "root" = ["root"] := Location.ofPath_name (by decide)
  rw [withDirectory, location_eq, insertDirectory, if_neg (by simp)]
  change folder [] = (empty.insertDirectory []).put ["root"] .directory
  rw [insertDirectory, if_pos (.inl rfl)]
  rfl

theorem folder_concat
    (fresh : name ∉ files.map Prod.fst)
    (content : String) :
    folder (files ++ [(name, content)]) = (folder files).put ["root", name] (.file content) := by
  rw [put, putEntry_of_not_mem (mt mem_folder_iff.mp fresh)]
  simp [folder]

theorem withFile_folder
    (proper : Location.IsProper name)
    (files : List (String × String))
    (content : String) :
    (folder files).withFile (filePath name) content =
      (folder files).put ["root", name] (.file content) := by
  have there : ((folder files).find? (Location.parent ["root", name])).isSome := by
    change ((folder files).find? ["root"]).isSome
    rw [find?_folder_root]
    rfl
  rw [withFile, withEntry, ofPath_filePath proper, insertDirectory_of_isSome there]

/-- Adding the files one after the other makes the store. -/
theorem folder_reachable (listing : IsListing files) : Reachable (folder files) [] := by
  induction files using List.reverseRecOn with
  | nil =>
      rw [folder_nil]
      exact .withDirectory "root" (.empty _)
  | append_singleton files file inductionHypothesis =>
      obtain ⟨proper, distinct⟩ := listing
      rw [List.map_append, List.nodup_append] at distinct
      have fresh : file.1 ∉ files.map Prod.fst := fun member =>
        distinct.2.2 file.1 member file.1 List.mem_cons_self rfl
      have fileProper := proper file (List.mem_append_right _ List.mem_cons_self)
      have earlier : IsListing files :=
        ⟨fun other member => proper other (List.mem_append_left _ member), distinct.1⟩
      rw [folder_concat fresh, ← withFile_folder fileProper]
      exact .withFile _ _ (inductionHypothesis earlier)

/-! ## Reading the store -/

theorem find?_folder
    (listing : IsListing files)
    (member : (name, content) ∈ files) :
    (folder files).find? ["root", name] = some (.file content) := by
  rw [(folder_reachable listing).wellFormed.find?_eq_some_iff]
  exact List.mem_cons_of_mem _ (List.mem_map.mpr ⟨(name, content), member, rfl⟩)

theorem find?_folder_of_not_mem (absent : name ∉ files.map Prod.fst) :
    (folder files).find? ["root", name] = none :=
  find?_eq_none (mt mem_folder_iff.mp absent)

theorem read_folder
    (listing : IsListing files)
    (member : (name, content) ∈ files) :
    (folder files).read (filePath name) = some content := by
  rw [read_eq_some_iff, (folder_linkless files).resolve_eq,
    ofPath_filePath (listing.proper _ member)]
  exact find?_folder listing member

theorem childPaths_folder (files : List (String × String)) :
    (folder files).childPaths "root" = files.map fun file => filePath file.1 := by
  have location_eq : Location.ofPath "root" = ["root"] := Location.ofPath_name (by decide)
  have namesIn_eq : (folder files).namesIn ["root"] = files.map Prod.fst := by
    rw [namesIn, folder, List.filterMap_cons_none rfl, List.filterMap_map, ← List.filterMap_eq_map]
    apply List.filterMap_congr
    intro file _
    rfl
  rw [childPaths, (folder_linkless files).resolve_eq, location_eq, namesIn_eq, List.map_map]
  rfl

/-! ## Changing the store -/

theorem present_folder_eq_false
    (proper : Location.IsProper name)
    (absent : name ∉ files.map Prod.fst) :
    (folder files).present (filePath name) = false := by
  rw [present_eq_false_iff, (folder_linkless files).resolve_eq, ofPath_filePath proper]
  exact ⟨List.cons_ne_nil _ _, find?_folder_of_not_mem absent⟩

/-- A new file is added at the end. -/
theorem writeFile_folder
    (proper : Location.IsProper name)
    (absent : name ∉ files.map Prod.fst)
    (content : String) :
    (folder files).writeFile (filePath name) content =
      .ok (folder (files ++ [(name, content)])) := by
  have linkless := folder_linkless files
  rw [writeFile_eq_ok_iff, linkless.resolve_eq, ofPath_filePath proper,
    find?_folder_of_not_mem absent, folder_concat absent]
  refine ⟨(Option.some_ne_none _).symm, ?_, rfl⟩
  change ((folder files).lookupLocation ["root"]).isSome
  rw [lookupLocation, linkless.resolveLocation_eq]
  change ((folder files).find? ["root"]).isSome
  rw [find?_folder_root]
  rfl

theorem removeFile_folder
    (listing : IsListing files)
    (member : (name, content) ∈ files) :
    (folder files).removeFile (filePath name) = .ok ((folder files).erase ["root", name]) := by
  refine removeFile_eq_ok_iff.mpr ⟨content, read_folder listing member, ?_⟩
  rw [(folder_linkless files).resolve_eq, ofPath_filePath (listing.proper _ member)]

theorem read_folder_erase_self
    (listing : IsListing files)
    (member : (name, content) ∈ files) :
    ((folder files).erase ["root", name]).read (filePath name) = none := by
  rw [read, ((folder_linkless files).erase _).resolve_eq,
    ofPath_filePath (listing.proper _ member),
    (folder_reachable listing).wellFormed.find?_erase_self]

theorem read_folder_erase_of_ne
    {other : String}
    (listing : IsListing files)
    (member : (name, content) ∈ files)
    (different : name ≠ other) :
    ((folder files).erase ["root", other]).read (filePath name) = some content := by
  have linkless := folder_linkless files
  have elsewhere : Location.ofPath (filePath name) ≠ ["root", other] := by
    rw [ofPath_filePath (listing.proper _ member)]
    intro equal
    exact different (List.cons.inj (List.cons.inj equal).2).1
  rw [linkless.read_eq (linkless.erase _) (find?_erase_of_ne elsewhere)]
  exact read_folder listing member

end Store

namespace Scan

open Store

variable {files : List (String × String)}

theorem walkEach_of_idle
    {step : String → List String → List String × List String}
    {found : String → List String}
    {paths visited : List String}
    (steps : ∀ path ∈ paths, step path visited = (found path, visited)) :
    walkEach step paths visited = (paths.flatMap found, visited) := by
  induction paths with
  | nil => rfl
  | cons path rest inductionHypothesis =>
      obtain ⟨now, later⟩ := List.forall_mem_cons.mp steps
      rw [walkEach_cons, now, inductionHypothesis later, List.flatMap_cons]

theorem lookup_folder
    {file : String × String}
    (listing : IsListing files)
    (member : file ∈ files) :
    (folder files).lookup (filePath file.1) = some (.file file.2) := by
  have location_eq : (folder files).resolve (filePath file.1) = ["root", file.1] := by
    rw [(folder_linkless files).resolve_eq, ofPath_filePath (listing.proper file member)]
  rw [lookup_of_resolve_ne_nil (by rw [location_eq]; exact List.cons_ne_nil _ _), location_eq]
  exact find?_folder listing member

theorem flatMap_sourceAt
    {options : ScanOptions}
    {some : List (String × String)}
    (listing : IsListing files)
    (members : ∀ file ∈ some, file ∈ files) :
    (some.map fun file => filePath file.1).flatMap (sourceAt (folder files) options) =
      (some.filter fun file => Path.hasExtension file.1 options.sourceExtension).map
        fun file => filePath file.1 := by
  induction some with
  | nil => rfl
  | cons file rest inductionHypothesis =>
      obtain ⟨member, later⟩ := List.forall_mem_cons.mp members
      have held := lookup_folder listing member
      have extension_eq : Path.hasExtension (filePath file.1) options.sourceExtension =
          Path.hasExtension file.1 options.sourceExtension :=
        Path.hasExtension_join "root" file.1 options.sourceExtension
      rw [List.map_cons, List.flatMap_cons, inductionHypothesis later]
      by_cases named : Path.hasExtension file.1 options.sourceExtension
      · rw [sourceAt_of_source held (extension_eq.trans named), List.filter_cons, if_pos named]
        rfl
      · have unnamed := extension_eq.trans (Bool.eq_false_iff.mpr named)
        rw [sourceAt_of_not_source fun _ _ => unnamed, List.filter_cons, if_neg named]
        rfl

/-- A scan finds the files that have the extension of sources, in their order. -/
theorem scan_folder
    (listing : IsListing files)
    (options : ScanOptions) :
    scan (folder files) options "root" =
      .ok ((files.filter fun file => Path.hasExtension file.1 options.sourceExtension).map
        fun file => filePath file.1) := by
  have directory : (folder files).lookup "root" = some .directory := by
    have location_eq : (folder files).resolve "root" = ["root"] := by
      rw [(folder_linkless files).resolve_eq]
      exact Location.ofPath_name (by decide)
    rw [lookup_of_resolve_ne_nil (by rw [location_eq]; exact List.cons_ne_nil _ _), location_eq]
    exact find?_folder_root files
  have idle (entered : List String) :
      (walkEach (walk (folder files) options options.maxDepth)
        ((folder files).childPaths "root") entered).1 =
      (files.filter fun file => Path.hasExtension file.1 options.sourceExtension).map
        fun file => filePath file.1 := by
    rw [childPaths_folder, walkEach_of_idle, flatMap_sourceAt listing fun _ member => member]
    intro path member
    obtain ⟨file, fileMember, rfl⟩ := List.mem_map.mp member
    apply walk_of_ne_directory
    rw [lookup_folder listing fileMember]
    exact fun equal => nomatch equal
  rw [scan_eq]
  cases detecting : options.detectCycles with
  | false => rw [walk_of_undetecting directory detecting, idle]
  | true => rw [walk_of_entered directory detecting List.not_mem_nil, idle]

/-- The first file is found first. -/
theorem scan_folder_cons
    {file : String × String}
    {options : ScanOptions}
    (listing : IsListing (file :: files))
    (named : Path.hasExtension file.1 options.sourceExtension) :
    scan (folder (file :: files)) options "root" =
      .ok (filePath file.1 ::
        (files.filter fun file => Path.hasExtension file.1 options.sourceExtension).map
          fun file => filePath file.1) := by
  rw [scan_folder listing, List.filter_cons, if_pos named, List.map_cons]

end Scan
end Baseline
