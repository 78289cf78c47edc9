import FleetPlan.Proofs.Repository.FileName

/-!
# Identifiers that are plain names

An identifier in which no `//` follows a scheme directly should be a plain name, but
it is taken as the address of a finished file if relative addresses can be resolved
against it. `Url.IsAddress` lists when that is so: with one of the special schemes,
with a path that starts with a slash, or where the `//` only shows once blanks are
left out. Every other identifier without an authority is a plain name, and an address
in which `://` stands nowhere is refused (`target_of_no_authority`).
-/

namespace FleetPlan

namespace Url

/-- A letter, and after it letters, digits, plus signs, hyphens and dots. -/
def IsScheme (scheme : List Char) : Prop :=
  ∃ first rest, scheme = first :: rest ∧ first.isAlpha = true ∧
    ∀ character ∈ rest, isSchemeChar character = true

/-- Whether a text starts with a scheme, its colon and two slashes. -/
def NamesAuthority (text : List Char) : Prop :=
  ∃ scheme rest, IsScheme scheme ∧ text = scheme ++ "://".toList ++ rest

/-- How a scheme is treated, in whichever case it is written. -/
def SchemeKind.ofText (scheme : List Char) : SchemeKind := ofScheme (scheme.map Char.toLower)

/-- Once trimmed blanks and ignored characters are left out, a text is a scheme and what follows its
colon. -/
structure ReadsAs (text scheme rest : List Char) : Prop where
  isScheme : IsScheme scheme
  clean_eq : clean text = scheme ++ ':' :: rest

/-- The texts without a visible authority that are addresses all the same. -/
inductive IsAddress (text : List Char) : Prop
  /-- A special scheme does not need the two slashes. -/
  | special {scheme rest : List Char} (reads : ReadsAs text scheme rest)
      (special : SchemeKind.ofText scheme ≠ .other)
      (valid : isPlace (SchemeKind.ofText scheme) rest = true)
  /-- For another scheme one slash is enough. -/
  | rooted {scheme path : List Char} (reads : ReadsAs text scheme ('/' :: path))
      (other : SchemeKind.ofText scheme = .other) (single : path.head? ≠ some '/')
  /-- The two slashes may be hidden by characters that are left out. -/
  | hidden {scheme place : List Char} (reads : ReadsAs text scheme ('/' :: '/' :: place))
      (other : SchemeKind.ofText scheme = .other) (changed : clean text ≠ text)
      (valid : isPlace .other ('/' :: '/' :: place) = true)

/-- A letter may stand anywhere in a scheme. -/
theorem isSchemeChar_of_isAlpha {character : Char} (letter : character.isAlpha = true) :
    isSchemeChar character = true := by
  simp [isSchemeChar, Char.isAlphanum, letter]

/-- All characters of a scheme may stand in a scheme. -/
theorem IsScheme.all {scheme : List Char} (isScheme : IsScheme scheme) :
    ∀ character ∈ scheme, isSchemeChar character = true := by
  obtain ⟨first, rest, rfl, letter, all⟩ := isScheme
  exact List.forall_mem_cons.mpr ⟨isSchemeChar_of_isAlpha letter, all⟩

/-- A scheme is read exactly where one stands before a colon. -/
theorem scheme?_eq_some_iff {text lower rest : List Char} :
    scheme? text = some (lower, rest) ↔
      ∃ scheme, IsScheme scheme ∧ text = scheme ++ ':' :: rest ∧
        lower = scheme.map Char.toLower := by
  constructor
  · intro read
    unfold scheme? at read
    split at read
    · cases read
    · next first others =>
      split at read
      · cases read
      · next letter =>
        split at read
        · next tail behind =>
          obtain ⟨rfl, rfl⟩ := Prod.mk.inj (Option.some.inj read)
          have starts : isSchemeChar first = true := isSchemeChar_of_isAlpha (by simpa using letter)
          refine ⟨(first :: others).takeWhile isSchemeChar,
            ⟨first, others.takeWhile isSchemeChar, List.takeWhile_cons_of_pos starts,
              by simpa using letter, List.all_eq_true.mp List.all_takeWhile⟩, ?_, rfl⟩
          rw [← behind, List.takeWhile_append_dropWhile]
        · cases read
  · rintro ⟨scheme, isScheme, rfl, rfl⟩
    have stop : isSchemeChar ':' = false := by decide
    have taken : (scheme ++ ':' :: rest).takeWhile isSchemeChar = scheme :=
      Text.takeWhile_append_of_stop isScheme.all (by simpa using stop)
    have behind : (scheme ++ ':' :: rest).dropWhile isSchemeChar = ':' :: rest := by
      rw [List.dropWhile_append_of_pos isScheme.all, List.dropWhile_cons_of_neg (by simp [stop])]
    obtain ⟨first, others, rfl, letter, -⟩ := isScheme
    simp only [List.cons_append] at taken behind ⊢
    simp only [scheme?, letter, behind, taken]
    rfl

/-- Where the scheme that is read is not followed by two slashes, a text does not name an authority. -/
theorem not_namesAuthority {text lower rest : List Char} (read : scheme? text = some (lower, rest))
    (apart : ¬ ['/', '/'] <+: rest) : ¬ NamesAuthority text := by
  rintro ⟨scheme, place, isScheme, whole⟩
  have doubled := scheme?_eq_some_iff.mpr ⟨scheme, isScheme, by simpa using whole, rfl⟩
  obtain ⟨-, rfl⟩ := Prod.mk.inj (Option.some.inj (read.symm.trans doubled))
  exact apart ⟨place, rfl⟩

/-- Relative addresses can be resolved against a text that has a valid place, where its scheme is
special or a slash follows it. -/
theorem isHierarchical_iff (text : String) :
    isHierarchical text = true ↔
      ∃ scheme rest, ReadsAs text.toList scheme rest ∧
        isPlace (SchemeKind.ofText scheme) rest = true ∧
        (SchemeKind.ofText scheme = .other → rest.head? = some '/') := by
  unfold isHierarchical parse?
  constructor
  · intro hierarchical
    cases read : scheme? (clean text.toList) with
    | none => simp [read] at hierarchical
    | some parts =>
      obtain ⟨lower, rest⟩ := parts
      obtain ⟨scheme, isScheme, clean_eq, rfl⟩ := scheme?_eq_some_iff.mp read
      simp only [read, Option.bind_eq_bind, Option.bind_some, SchemeKind.ofText] at hierarchical ⊢
      split at hierarchical
      · next valid =>
        refine ⟨scheme, rest, ⟨isScheme, clean_eq⟩, valid, fun other => ?_⟩
        simpa [other] using hierarchical
      · cases hierarchical
  · rintro ⟨scheme, rest, ⟨isScheme, clean_eq⟩, valid, slash⟩
    have read := scheme?_eq_some_iff.mpr ⟨scheme, isScheme, clean_eq, rfl⟩
    rw [SchemeKind.ofText] at valid slash
    simp only [read, Option.bind_eq_bind, Option.bind_some, valid, if_true, Option.any_some]
    cases kind : SchemeKind.ofScheme (scheme.map Char.toLower) with
    | other => simp [slash kind]
    | _ => rfl

/-- With a single slash there is no authority that could be invalid. -/
theorem isPlace_rooted {path : List Char} (single : path.head? ≠ some '/') :
    isPlace .other ('/' :: path) = true := by
  have apart : Text.dropStart? ['/', '/'] ('/' :: path) = none := by
    cases path with
    | nil => rfl
    | cons first path =>
      have other : ¬ '/' = first := fun same => single (same ▸ rfl)
      simp [Text.dropStart?, other]
  simp only [isPlace, apart]

/-- Without a visible authority, relative addresses can be resolved against exactly those texts that
are addresses all the same. -/
theorem isHierarchical_iff_isAddress {text : String} (noAuthority : ¬ NamesAuthority text.toList) :
    isHierarchical text = true ↔ IsAddress text.toList := by
  rw [isHierarchical_iff]
  constructor
  · rintro ⟨scheme, rest, reads, valid, slash⟩
    by_cases other : SchemeKind.ofText scheme = .other
    · obtain ⟨path, rfl⟩ := List.head?_eq_some_iff.mp (slash other)
      by_cases double : path.head? = some '/'
      · obtain ⟨place, rfl⟩ := List.head?_eq_some_iff.mp double
        refine .hidden reads other (fun same => noAuthority ?_) (other ▸ valid)
        exact ⟨scheme, place, reads.isScheme, by rw [← same, reads.clean_eq]; simp⟩
      · exact .rooted reads other double
    · exact .special reads other valid
  · rintro (⟨reads, special, valid⟩ | ⟨reads, other, single⟩ | ⟨reads, other, -, valid⟩)
    · exact ⟨_, _, reads, valid, fun other => absurd other special⟩
    · exact ⟨_, _, reads, other ▸ isPlace_rooted single, fun _ => rfl⟩
    · exact ⟨_, _, reads, other ▸ valid, fun _ => rfl⟩

end Url

namespace Repository

/-- Where `://` does not occur, there is no last segment. -/
theorem nameOfUrl_eq_empty {identifier : String}
    (markless : ∀ front rest, identifier ≠ front ++ "://" ++ rest) : nameOfUrl identifier = "" := by
  have uncut : ¬ Nonempty (SegmentCut identifier.toList) := by
    rintro ⟨cut⟩
    have whole := cut.url_eq
    rw [cut.place_eq] at whole
    refine markless (String.ofList cut.scheme)
      (String.ofList (cut.authority ++ ['/'] ++ (cut.folders ++ cut.segment) ++ cut.tail))
      (String.toList_injective ?_)
    simpa using whole
  exact (nameOfUrl_eq_empty_iff identifier).mpr (Or.inl (lastSegment_eq_nil uncut))

/-- An identifier in which no `//` follows a scheme directly is a plain name exactly if it is not an
address all the same, and such an address is refused where it does not have `://` further on. -/
theorem target_of_no_authority {identifier : String}
    (noAuthority : ¬ Url.NamesAuthority identifier.toList) (directory : String) :
    (target identifier directory = .ok ⟨identifier, none, pathOf directory identifier⟩ ↔
        ¬ Url.IsAddress identifier.toList) ∧
      (Url.IsAddress identifier.toList →
        (∀ front rest, identifier ≠ front ++ "://" ++ rest) →
          target identifier directory = .error (.invalidRepository identifier .noFileName)) := by
  rw [← Url.isHierarchical_iff_isAddress noAuthority]
  refine ⟨⟨fun found remote => ?_, fun plain => target_of_name (by simpa using plain)⟩,
    fun remote markless => ?_⟩
  · obtain ⟨-, same⟩ := target_eq_ok_of_url remote found
    cases congrArg Target.url same
  · simp [target, remote, nameOfUrl_eq_empty markless]

/-- A path with a single slash behind a scheme is refused, though it has no authority. -/
theorem not_plain_rooted :
    ¬ Url.NamesAuthority "epel:/8".toList ∧
      target "epel:/8" "/etc/yum.repos.d" = .error (.invalidRepository "epel:/8" .noFileName) ∧
      target "epel:/8" "/etc/yum.repos.d" ≠
        .ok ⟨"epel:/8", none, pathOf "/etc/yum.repos.d" "epel:/8"⟩ := by
  have read : Url.scheme? "epel:/8".toList = some ("epel".toList, "/8".toList) := by decide
  have remote : Url.isHierarchical "epel:/8" = true := by decide
  have nameless : nameOfUrl "epel:/8" = "" := by decide
  have refused : target "epel:/8" "/etc/yum.repos.d" =
      .error (.invalidRepository "epel:/8" .noFileName) := by simp [target, remote, nameless]
  refine ⟨Url.not_namesAuthority read (by decide), refused, ?_⟩
  rw [refused]
  simp

/-- A name with a colon stays a name, and a special scheme is refused without an authority. -/
theorem target_of_no_authority_colons :
    (¬ Url.NamesAuthority "epel:8".toList ∧
        target "epel:8" "/d/" = .ok ⟨"epel:8", none, "/d/epel:8.repo"⟩) ∧
      ¬ Url.NamesAuthority "file:epel".toList ∧
        target "file:epel" "/d/" = .error (.invalidRepository "file:epel" .noFileName) := by
  have name : ¬ Url.NamesAuthority "epel:8".toList :=
    Url.not_namesAuthority (by decide : _ = some ("epel".toList, "8".toList)) (by decide)
  have special : ¬ Url.NamesAuthority "file:epel".toList :=
    Url.not_namesAuthority (by decide : _ = some ("file".toList, "epel".toList)) (by decide)
  have plain : ¬ Url.IsAddress "epel:8".toList := by
    rw [← Url.isHierarchical_iff_isAddress name]
    decide
  have address : Url.IsAddress "file:epel".toList := by
    rw [← Url.isHierarchical_iff_isAddress special]
    decide
  have path : pathOf "/d/" "epel:8" = "/d/epel:8.repo" := by decide
  have markless : ∀ front rest, "file:epel" ≠ front ++ "://" ++ rest := by
    intro front rest same
    have found : Text.occurs "://".toList "file:epel".toList = true :=
      Text.occurs_iff.mpr ⟨front.toList, rest.toList, by simp [same]⟩
    exact absurd found (by decide)
  refine ⟨⟨name, ?_⟩, special, (target_of_no_authority special "/d/").2 address markless⟩
  rw [← path]
  exact (target_of_no_authority name "/d/").1.mpr plain

end Repository

end FleetPlan
