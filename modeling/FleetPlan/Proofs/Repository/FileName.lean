import FleetPlan.Repository

/-!
# Names of repository files

A URL names the file of a repository by the last segment of its path, as it is
written. `SegmentCut` says what this segment is without a search for it: a URL that
has one can be cut around it in one way, and `lastSegment` finds it
(`isLastSegment_iff`). So the file of a repository that is declared by URL has a
name of its own and lies right in the directory, and all other identifiers are taken
as names (`target_in_folder`).
-/

namespace FleetPlan.Repository

/-- Whether a character starts the query or the fragment of a URL. -/
def EndsPlace (character : Char) : Prop := character = '?' ∨ character = '#'

/-- A URL cut around the last segment of its path. -/
structure SegmentCut (url : List Char) where
  /-- The URL without its query and fragment. -/
  place : List Char
  /-- The query and the fragment. -/
  tail : List Char
  /-- What stands before the first `://`. -/
  scheme : List Char
  /-- What stands before the next slash. -/
  authority : List Char
  /-- What stands before the last segment of the path. -/
  folders : List Char
  segment : List Char
  url_eq : url = place ++ tail
  place_apart : ∀ character ∈ place, ¬ EndsPlace character
  tail_starts : ∀ character ∈ tail.head?, EndsPlace character
  place_eq : place = scheme ++ "://".toList ++ (authority ++ ['/'] ++ (folders ++ segment))
  scheme_first : ∀ front rest, place = front ++ "://".toList ++ rest →
    scheme.length ≤ front.length
  authority_apart : '/' ∉ authority
  folders_end : folders = [] ∨ ∃ front, folders = front ++ ['/']
  segment_apart : '/' ∉ segment

/-- The last segment of the path of a URL, which is empty if the URL has none. -/
def IsLastSegment (url segment : List Char) : Prop :=
  (∃ cut : SegmentCut url, cut.segment = segment) ∨ segment = [] ∧ ¬ Nonempty (SegmentCut url)

/-- The file of a repository that is declared by the URL of a finished file: its name is the last
segment of the URL with the extension once, and it lies right in the folder. -/
structure IsDownload (url segment folder : String) (file : Target) : Prop where
  url_eq : file.url = some url
  name_ne : file.name ≠ ""
  name_apart : ∀ character ∈ file.name.toList, character ≠ '/' ∧ ¬ EndsPlace character
  fileName : file.name ++ ".repo" =
    if ".repo".toList <:+ segment.toList then segment else segment ++ ".repo"
  fileName_proper : file.name ++ ".repo" ≠ "." ∧ file.name ++ ".repo" ≠ ".."
  components : Text.splitAt '/' file.path.toList =
    Text.splitAt '/' folder.toList ++ [(file.name ++ ".repo").toList]

namespace SegmentCut

variable {url : List Char} (cut : SegmentCut url)

/-- The place ends before the first character that starts a query or a fragment. -/
theorem takeWhile_eq :
    (url.takeWhile fun character => character ≠ '?' && character ≠ '#') = cut.place := by
  have inside : ∀ character ∈ cut.place, (character ≠ '?' && character ≠ '#') = true := by
    simpa [EndsPlace] using cut.place_apart
  have stop : ∀ character ∈ cut.tail.head?, (character ≠ '?' && character ≠ '#') = false := by
    intro character first
    rcases cut.tail_starts character first with rfl | rfl <;> rfl
  conv => lhs; rw [cut.url_eq]
  exact Text.takeWhile_append_of_stop inside stop

/-- The scheme is what a search for `://` finds. -/
theorem cutFirst?_place :
    Text.cutFirst? "://".toList cut.place =
      some (cut.scheme, cut.authority ++ ['/'] ++ (cut.folders ++ cut.segment)) :=
  Text.cutFirst?_eq_some_iff.mpr ⟨cut.place_eq, cut.scheme_first⟩

/-- The authority is what a search for a slash finds. -/
theorem cutFirst?_authority :
    Text.cutFirst? ['/'] (cut.authority ++ ['/'] ++ (cut.folders ++ cut.segment)) =
      some (cut.authority, cut.folders ++ cut.segment) :=
  Text.cutFirst?_singleton_eq_some_iff.mpr ⟨rfl, cut.authority_apart⟩

/-- The segment is what stands behind the last slash of the path. -/
theorem takeWhile_reverse_path :
    ((cut.folders ++ cut.segment).reverse.takeWhile (· ≠ '/')).reverse = cut.segment := by
  have inside : ∀ character ∈ cut.segment.reverse, decide (character ≠ '/') = true := by
    intro character member
    simpa using ne_of_mem_of_not_mem (List.mem_reverse.mp member) cut.segment_apart
  have stop : ∀ character ∈ cut.folders.reverse.head?, decide (character ≠ '/') = false := by
    rcases cut.folders_end with empty | ⟨front, ended⟩
    · simp [empty]
    · simp [ended]
  rw [List.reverse_append, Text.takeWhile_append_of_stop inside stop, List.reverse_reverse]

/-- The last segment is found where a URL can be cut around it. -/
theorem lastSegment_eq : lastSegment url = cut.segment := by
  simp only [lastSegment, cut.takeWhile_eq, cut.cutFirst?_place, cut.cutFirst?_authority,
    cut.takeWhile_reverse_path]

end SegmentCut

section LastSegment

variable {url segment : List Char}

/-- Where the searches for `://` and for a slash succeed, a URL can be cut around a segment. -/
theorem nonempty_segmentCut {scheme rest authority path : List Char}
    (schemeFound : Text.cutFirst? "://".toList
      (url.takeWhile fun character => character ≠ '?' && character ≠ '#') = some (scheme, rest))
    (slashFound : Text.cutFirst? ['/'] rest = some (authority, path)) :
    Nonempty (SegmentCut url) := by
  obtain ⟨place_eq, scheme_first⟩ := Text.cutFirst?_eq_some_iff.mp schemeFound
  obtain ⟨rfl, authority_apart⟩ := Text.cutFirst?_singleton_eq_some_iff.mp slashFound
  let inSegment : Char → Bool := (· ≠ '/')
  have path_eq : path =
      (path.reverse.dropWhile inSegment).reverse ++ (path.reverse.takeWhile inSegment).reverse := by
    rw [← List.reverse_append, List.takeWhile_append_dropWhile, List.reverse_reverse]
  exact ⟨{
    place := url.takeWhile fun character => character ≠ '?' && character ≠ '#'
    tail := url.dropWhile fun character => character ≠ '?' && character ≠ '#'
    scheme, authority
    folders := (path.reverse.dropWhile inSegment).reverse
    segment := (path.reverse.takeWhile inSegment).reverse
    url_eq := List.takeWhile_append_dropWhile.symm
    place_apart := by
      intro character member
      simpa [EndsPlace] using List.all_eq_true.mp List.all_takeWhile character member
    tail_starts := by
      intro character first
      have stop := List.head?_dropWhile_not
        (fun character => character ≠ '?' && character ≠ '#') url
      rw [Option.mem_def.mp first] at stop
      exact Decidable.or_iff_not_imp_left.mpr (by simpa using stop)
    place_eq := by rw [← path_eq]; exact place_eq
    scheme_first, authority_apart
    folders_end := by
      cases folders : path.reverse.dropWhile inSegment with
      | nil => exact Or.inl rfl
      | cons first rest =>
        have stop := List.head?_dropWhile_not inSegment path.reverse
        rw [folders] at stop
        obtain rfl : first = '/' := by simpa [inSegment] using stop
        exact Or.inr ⟨rest.reverse, List.reverse_cons⟩
    segment_apart := by
      intro member
      have wanted := List.all_eq_true.mp List.all_takeWhile '/' (List.mem_reverse.mp member)
      simp [inSegment] at wanted }⟩

/-- A URL that cannot be cut around a segment has an empty last segment. -/
theorem lastSegment_eq_nil (uncut : ¬ Nonempty (SegmentCut url)) : lastSegment url = [] := by
  simp only [lastSegment]
  split
  · rfl
  · next schemeFound =>
    split
    · rfl
    · next slashFound => exact absurd (nonempty_segmentCut schemeFound slashFound) uncut

/-- There is one last segment of the path of a URL. -/
theorem isLastSegment_iff : IsLastSegment url segment ↔ segment = lastSegment url := by
  constructor
  · rintro (⟨cut, rfl⟩ | ⟨rfl, uncut⟩)
    · exact cut.lastSegment_eq.symm
    · exact (lastSegment_eq_nil uncut).symm
  · rintro rfl
    by_cases cuts : Nonempty (SegmentCut url)
    · obtain ⟨cut⟩ := cuts
      exact Or.inl ⟨cut, cut.lastSegment_eq.symm⟩
    · exact Or.inr ⟨lastSegment_eq_nil cuts, cuts⟩

/-- No character of the last segment ends it. -/
theorem apart_of_mem_lastSegment {character : Char} (member : character ∈ lastSegment url) :
    character ≠ '/' ∧ ¬ EndsPlace character := by
  by_cases cuts : Nonempty (SegmentCut url)
  · obtain ⟨cut⟩ := cuts
    rw [cut.lastSegment_eq] at member
    refine ⟨ne_of_mem_of_not_mem member cut.segment_apart, cut.place_apart character ?_⟩
    rw [cut.place_eq]
    simp [member]
  · rw [lastSegment_eq_nil cuts] at member
    cases member

end LastSegment

section Name

variable (url : String)

/-- The segment ends in the extension and the name is what stands before it, or the name is the whole
segment. -/
theorem nameOfUrl_cases :
    lastSegment url.toList = (nameOfUrl url).toList ++ ".repo".toList ∨
      ¬ ".repo".toList <:+ lastSegment url.toList ∧
        (nameOfUrl url).toList = lastSegment url.toList := by
  cases ended : Text.dropEnd? extension.toList (lastSegment url.toList) with
  | some front =>
    refine Or.inl ?_
    rw [nameOfUrl, ended, Option.getD_some, String.toList_ofList]
    exact Text.dropEnd?_eq_some_iff.mp ended
  | none =>
    refine Or.inr ⟨?_, ?_⟩
    · rintro ⟨front, whole⟩
      have found := Text.dropEnd?_eq_some_iff.mpr whole.symm
      exact nomatch ended.symm.trans found
    · rw [nameOfUrl, ended, Option.getD_none, String.toList_ofList]

/-- The file of a URL has the last segment as its name, with the extension put behind if it is not
there. -/
theorem nameOfUrl_append_extension {segment : String}
    (last : segment.toList = lastSegment url.toList) :
    nameOfUrl url ++ ".repo" =
      if ".repo".toList <:+ segment.toList then segment else segment ++ ".repo" := by
  apply String.toList_injective
  rcases nameOfUrl_cases url with whole | ⟨bare, whole⟩
  · rw [last, if_pos ⟨_, whole.symm⟩, last, whole, String.toList_append]
  · rw [last, if_neg bare, String.toList_append, String.toList_append, last, whole]

/-- The name is empty exactly if there is no segment, or nothing before the extension. -/
theorem nameOfUrl_eq_empty_iff :
    nameOfUrl url = "" ↔
      lastSegment url.toList = [] ∨ lastSegment url.toList = ".repo".toList := by
  rw [← String.toList_inj]
  rcases nameOfUrl_cases url with whole | ⟨bare, whole⟩
  · simp [whole]
  · rw [whole]
    refine (or_iff_left fun same => bare ?_).symm
    exact ⟨[], same.symm⟩

/-- The characters of the name are characters of the segment. -/
theorem mem_lastSegment_of_mem_nameOfUrl {character : Char}
    (member : character ∈ (nameOfUrl url).toList) : character ∈ lastSegment url.toList := by
  rcases nameOfUrl_cases url with whole | ⟨-, whole⟩
  · rw [whole]
    exact List.mem_append_left _ member
  · exact whole ▸ member

end Name

section Target

variable {identifier directory : String}

/-- Slashes at the end of the directory make no difference. -/
theorem target_append_slashes (identifier directory : String) (slashes : Nat) :
    target identifier (directory ++ String.ofList (List.replicate slashes '/')) =
      target identifier directory := by
  have same : ∀ name, pathOf (directory ++ String.ofList (List.replicate slashes '/')) name =
      pathOf directory name := by
    intro name
    rw [pathOf, pathOf, String.toList_append, String.toList_ofList, Text.trimEnd_append_replicate]
  simp only [target, same]

/-- Every identifier has a file, except a URL without a name for it. -/
theorem exists_target_eq_error_iff :
    (∃ failure, target identifier directory = .error failure) ↔
      Url.isHierarchical identifier = true ∧ nameOfUrl identifier = "" := by
  by_cases remote : Url.isHierarchical identifier = true
  · by_cases nameless : nameOfUrl identifier = ""
    · simp [target, remote, nameless]
    · simp [target, remote, nameless]
  · simp [target, remote]

/-- A repository that is declared by URL is downloaded from there. -/
theorem target_eq_ok_of_url {file : Target} (remote : Url.isHierarchical identifier = true)
    (found : target identifier directory = .ok file) :
    nameOfUrl identifier ≠ "" ∧
      file = ⟨nameOfUrl identifier, some identifier, pathOf directory (nameOfUrl identifier)⟩ := by
  by_cases nameless : nameOfUrl identifier = ""
  · simp [target, remote, nameless] at found
  · simp [target, remote, nameless] at found
    exact ⟨nameless, found.symm⟩

/-- A repository that is declared by name keeps its name. -/
theorem target_of_name (plain : Url.isHierarchical identifier = false) :
    target identifier directory = .ok ⟨identifier, none, pathOf directory identifier⟩ := by
  simp [target, plain]

/-- A file of a name without slashes lies right in its folder. -/
theorem splitAt_pathOf {name : String} (apart : '/' ∉ name.toList) (directory : String) :
    Text.splitAt '/' (pathOf directory name).toList =
      Text.splitAt '/' (Text.trimEnd '/' directory.toList) ++ [(name ++ ".repo").toList] := by
  have fileApart : '/' ∉ (name ++ ".repo").toList := by
    rw [String.toList_append, List.mem_append]
    exact not_or.mpr ⟨apart, by decide⟩
  have chars : (pathOf directory name).toList =
      Text.trimEnd '/' directory.toList ++ '/' :: (name ++ ".repo").toList := by
    simp [pathOf, extension]
  rw [chars, Text.splitAt_append, Text.splitAt_of_not_mem fileApart]

/-- The file of a URL is named by its last segment. -/
theorem isDownload_of_target {file : Target} {segment folder : String}
    (remote : Url.isHierarchical identifier = true)
    (found : target identifier directory = .ok file)
    (last : segment.toList = lastSegment identifier.toList)
    (trimmed : folder.toList = Text.trimEnd '/' directory.toList) :
    IsDownload identifier segment folder file := by
  obtain ⟨named, rfl⟩ := target_eq_ok_of_url remote found
  have apart : ∀ character ∈ (nameOfUrl identifier).toList,
      character ≠ '/' ∧ ¬ EndsPlace character := fun character member =>
    apart_of_mem_lastSegment (mem_lastSegment_of_mem_nameOfUrl identifier member)
  have long : 4 < (nameOfUrl identifier ++ ".repo").length := by
    rw [String.length_append, show ".repo".length = 5 from rfl]
    omega
  have notShort : ∀ short : String, short.length ≤ 4 → nameOfUrl identifier ++ ".repo" ≠ short :=
    fun short within same => absurd (same ▸ long) (Nat.not_lt.mpr within)
  exact {
    url_eq := rfl
    name_ne := named
    name_apart := apart
    fileName := nameOfUrl_append_extension identifier last
    fileName_proper := ⟨notShort "." (by decide), notShort ".." (by decide)⟩
    components := by
      rw [trimmed]
      exact splitAt_pathOf (fun member => (apart '/' member).1 rfl) directory }

/-- Every identifier and directory: the last segment of the identifier and the folder are what they
should be, only a URL without a file name has no file, a URL names its file by its last segment and
keeps it right in the folder, everything else is a name, and slashes at the end of the directory make
no difference. -/
theorem target_in_folder (identifier directory : String) :
    ∃ segment folder : String,
      (∀ other : String, IsLastSegment identifier.toList other.toList ↔ other = segment) ∧
      (folder.toList.getLast? ≠ some '/' ∧
        ∃ slashes, directory = folder ++ String.ofList (List.replicate slashes '/')) ∧
      ((∃ failure, target identifier directory = .error failure) ↔
        Url.isHierarchical identifier = true ∧ (segment = "" ∨ segment = ".repo")) ∧
      (∀ file, target identifier directory = .ok file →
        file.path = folder ++ "/" ++ file.name ++ ".repo" ∧
          if Url.isHierarchical identifier = true then IsDownload identifier segment folder file
          else file.name = identifier ∧ file.url = none) ∧
      ∀ slashes, target identifier (directory ++ String.ofList (List.replicate slashes '/')) =
        target identifier directory := by
  let segment := String.ofList (lastSegment identifier.toList)
  let folder := String.ofList (Text.trimEnd '/' directory.toList)
  have last : segment.toList = lastSegment identifier.toList := String.toList_ofList
  have trimmed : folder.toList = Text.trimEnd '/' directory.toList := String.toList_ofList
  refine ⟨segment, folder, fun other => ?_, ⟨?_, ?_⟩, ?_, fun file found => ?_,
    target_append_slashes identifier directory⟩
  · rw [isLastSegment_iff, ← last, String.toList_inj]
  · rw [trimmed]
    exact Text.getLast?_trimEnd '/' directory.toList
  · obtain ⟨slashes, whole⟩ := Text.exists_eq_trimEnd_append '/' directory.toList
    refine ⟨slashes, String.toList_injective ?_⟩
    rw [String.toList_append, trimmed, String.toList_ofList]
    exact whole
  · rw [exists_target_eq_error_iff, nameOfUrl_eq_empty_iff, ← last, ← String.toList_inj,
      ← String.toList_inj]
    rfl
  · by_cases remote : Url.isHierarchical identifier = true
    · refine ⟨?_, by rw [if_pos remote]; exact isDownload_of_target remote found last trimmed⟩
      obtain ⟨-, rfl⟩ := target_eq_ok_of_url remote found
      rfl
    · rw [target_of_name (by simpa using remote)] at found
      obtain rfl := Except.ok.inj found
      exact ⟨rfl, by rw [if_neg remote]; exact ⟨rfl, rfl⟩⟩

/-- The extension is taken off once, the query does not count, and neither do slashes at the end of the
directory. -/
example :
    Url.isHierarchical "sftp://mirror/el/9.repo.repo?arch=/x" = true ∧
      nameOfUrl "sftp://mirror/el/9.repo.repo?arch=/x" = "9.repo" ∧
      pathOf "/etc//" "9.repo" = "/etc/9.repo.repo" := by
  decide

end Target

end FleetPlan.Repository
