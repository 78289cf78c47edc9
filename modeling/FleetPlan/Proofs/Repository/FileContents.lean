import FleetPlan.Repository

/-!
# What a repository file says

A repository file is read line by line: a title in brackets starts a section, and
every other line is a key, the first equals sign and a value
(`RepositoryFile.sections?`). Nothing that is read has a line end in it
(`RepositoryFile.lacks_of_sections?`), and a section is read as it was written exactly
if it has none (`RepositoryFile.sections?_written_iff`). So the file of a repository
says what is declared, exactly if no text of the declaration has a line end
(`Repository.reads_back_iff`). A line end in a text starts a line that is read like
any other, and a name for readers can switch off the signatures
(`Repository.not_says_signed`).
-/

namespace FleetPlan

namespace RepositoryFile

/-- The lines of a text, each of which has to be ended. -/
def lines? (text : List Char) : Option (List (List Char)) :=
  let pieces := Text.splitAt '\n' text
  if pieces.getLast? = some [] then some pieces.dropLast else none

/-- No line has the end of a line in it. -/
theorem not_mem_of_lines? {text line : List Char} {lines : List (List Char)}
    (read : lines? text = some lines) (member : line ∈ lines) : '\n' ∉ line := by
  rw [lines?, Option.ite_none_right_eq_some] at read
  obtain ⟨-, same⟩ := read
  obtain rfl := Option.some.inj same
  exact Text.not_mem_of_mem_splitAt (List.dropLast_subset _ member)

/-- Lines that are ended one after the other are read as they were. -/
theorem lines?_flatMap {lines : List (List Char)} (apart : ∀ line ∈ lines, '\n' ∉ line) :
    lines? (lines.flatMap (· ++ ['\n'])) = some lines := by
  simp [lines?, Text.splitAt_flatMap apart]

/-- A line that can be read. -/
inductive Line where
  | heading (title : List Char)
  | setting (key value : List Char)
  deriving DecidableEq, Repr

namespace Line

/-- What stands between the brackets of a heading. -/
def title? (text : List Char) : Option (List Char) :=
  (Text.dropStart? ['['] text).bind (Text.dropEnd? [']'])

/-- Read a line: a heading, or a key, the first equals sign and a value. -/
def ofText? (text : List Char) : Option Line :=
  match title? text with
  | some title => some (.heading title)
  | none => (Text.cutFirst? ['='] text).map fun cut => .setting cut.1 cut.2

/-- A heading is a title between brackets. -/
theorem title?_eq_some_iff {text title : List Char} :
    title? text = some title ↔ text = '[' :: (title ++ [']']) := by
  simp [title?, Option.bind_eq_some_iff, Text.dropStart?_eq_some_iff, Text.dropEnd?_eq_some_iff]

/-- A title between brackets is read as a heading. -/
@[simp] theorem ofText?_heading (title : List Char) :
    ofText? ('[' :: (title ++ [']'])) = some (.heading title) := by
  rw [ofText?, title?_eq_some_iff.mpr rfl]

/-- Whether a line that starts with a key cannot be taken for a heading or for another key. -/
def IsPlainKey (key : List Char) : Prop := key.head? ≠ some '[' ∧ '=' ∉ key

instance : DecidablePred IsPlainKey := fun key =>
  inferInstanceAs (Decidable (key.head? ≠ some '[' ∧ '=' ∉ key))

/-- A plain key, an equals sign and any value are read as they were. -/
theorem ofText?_setting {key : List Char} (plain : IsPlainKey key) (value : List Char) :
    ofText? (key ++ '=' :: value) = some (.setting key value) := by
  obtain ⟨start, single⟩ := plain
  have noHeading : title? (key ++ '=' :: value) = none := by
    rw [Option.eq_none_iff_forall_ne_some]
    intro title heading
    have shape := title?_eq_some_iff.mp heading
    cases key <;> simp_all
  have cut : Text.cutFirst? ['='] (key ++ '=' :: value) = some (key, value) :=
    Text.cutFirst?_singleton_eq_some_iff.mpr ⟨by simp, single⟩
  rw [ofText?, noHeading]
  simp [cut]

/-- Whether no part of a line has a character. -/
def Lacks (mark : Char) : Line → Prop
  | .heading title => mark ∉ title
  | .setting key value => mark ∉ key ∧ mark ∉ value

/-- What is read from a line has no character that the line does not have. -/
theorem lacks_of_ofText? {mark : Char} {text : List Char} {line : Line} (apart : mark ∉ text)
    (read : ofText? text = some line) : line.Lacks mark := by
  rw [ofText?] at read
  split at read
  · next title heading =>
    obtain rfl := Option.some.inj read
    rw [title?_eq_some_iff.mp heading] at apart
    exact fun inside => apart (by simp [inside])
  · obtain ⟨⟨key, value⟩, cut, rfl⟩ := Option.map_eq_some_iff.mp read
    rw [Text.append_of_cutFirst? cut] at apart
    exact ⟨fun inside => apart (by simp [inside]), fun inside => apart (by simp [inside])⟩

/-- The same for the lines of a text. -/
theorem lacks_of_mapM {mark : Char} {texts : List (List Char)} {lines : List Line}
    (apart : ∀ text ∈ texts, mark ∉ text) (read : texts.mapM ofText? = some lines) :
    ∀ line ∈ lines, line.Lacks mark := by
  induction texts generalizing lines with
  | nil =>
    obtain rfl : [] = lines := Option.some.inj read
    exact List.forall_mem_nil _
  | cons text texts inductionHypothesis =>
    obtain ⟨here, further⟩ := List.forall_mem_cons.mp apart
    simp only [List.mapM_cons, Option.bind_eq_bind, Option.bind_eq_some_iff] at read
    obtain ⟨line, first, rest, others, same⟩ := read
    obtain rfl : line :: rest = lines := Option.some.inj same
    exact List.forall_mem_cons.mpr
      ⟨lacks_of_ofText? here first, inductionHypothesis further others⟩

end Line

/-- A title with the keys and values below it. -/
structure Section where
  title : String
  settings : List (String × String)
  deriving DecidableEq, Repr

namespace Section

/-- Whether no text of a setting has a character. -/
def SettingLacks (mark : Char) (setting : String × String) : Prop :=
  mark ∉ setting.1.toList ∧ mark ∉ setting.2.toList

/-- Whether no text of a section has a character. -/
def Lacks (mark : Char) (part : Section) : Prop :=
  mark ∉ part.title.toList ∧ ∀ setting ∈ part.settings, SettingLacks mark setting

/-- The lines of a section: its heading, and a line for each of its settings. -/
def lines (part : Section) : List String :=
  ("[" ++ part.title ++ "]") ::
    part.settings.map fun setting => setting.1 ++ "=" ++ setting.2

/-- The text of a section, each line of which is ended. -/
def written (part : Section) : String :=
  String.join (part.lines.map (· ++ "\n"))

/-- Whether every key of a section is plain. -/
def HasPlainKeys (part : Section) : Prop :=
  ∀ setting ∈ part.settings, Line.IsPlainKey setting.1.toList

end Section

/-- The settings before the first heading, and the sections that the headings start. -/
def grouped : List Line → List (String × String) × List Section
  | [] => ([], [])
  | .setting key value :: lines =>
    ((String.ofList key, String.ofList value) :: (grouped lines).1, (grouped lines).2)
  | .heading title :: lines => ([], ⟨String.ofList title, (grouped lines).1⟩ :: (grouped lines).2)

/-- Grouping puts no character into a text. -/
theorem lacks_of_grouped {mark : Char} {lines : List Line}
    (apart : ∀ line ∈ lines, line.Lacks mark) :
    (∀ setting ∈ (grouped lines).1, Section.SettingLacks mark setting) ∧
      ∀ part ∈ (grouped lines).2, part.Lacks mark := by
  induction lines with
  | nil => exact ⟨List.forall_mem_nil _, List.forall_mem_nil _⟩
  | cons line lines inductionHypothesis =>
    obtain ⟨here, further⟩ := List.forall_mem_cons.mp apart
    obtain ⟨settings, parts⟩ := inductionHypothesis further
    cases line with
    | heading title =>
      refine ⟨List.forall_mem_nil _, List.forall_mem_cons.mpr ⟨⟨?_, settings⟩, parts⟩⟩
      simpa [Line.Lacks] using here
    | setting key value =>
      refine ⟨List.forall_mem_cons.mpr ⟨?_, settings⟩, parts⟩
      simpa [Section.SettingLacks, Line.Lacks] using here

/-- Settings without a heading are grouped into themselves. -/
theorem grouped_settings (settings : List (String × String)) :
    grouped (settings.map fun setting => .setting setting.1.toList setting.2.toList) =
      (settings, []) := by
  induction settings with
  | nil => rfl
  | cons setting settings inductionHypothesis => simp [grouped, inductionHypothesis]

/-- The sections of a file. Every line has to be readable, and the first one is a heading. -/
def sections? (text : String) : Option (List Section) := do
  let lines ← lines? text.toList
  let read ← lines.mapM Line.ofText?
  match grouped read with
  | ([], sections) => some sections
  | _ => none

/-- Nothing that is read from a file has the end of a line in it. -/
theorem lacks_of_sections? {text : String} {sections : List Section}
    (read : sections? text = some sections) : ∀ part ∈ sections, part.Lacks '\n' := by
  simp only [sections?, Option.bind_eq_bind, Option.bind_eq_some_iff] at read
  obtain ⟨lines, ended, parts, readable, made⟩ := read
  have apart : ∀ line ∈ parts, line.Lacks '\n' :=
    Line.lacks_of_mapM (fun _ => not_mem_of_lines? ended) readable
  have grouping := (lacks_of_grouped apart).2
  split at made
  · next shape =>
    obtain rfl := Option.some.inj made
    simpa [shape] using grouping
  · cases made

/-- The lines of a section with plain keys are its heading and its settings. -/
theorem mapM_lines {part : Section} (plain : part.HasPlainKeys) :
    (part.lines.map String.toList).mapM Line.ofText? = some (.heading part.title.toList ::
      part.settings.map fun setting => .setting setting.1.toList setting.2.toList) := by
  obtain ⟨title, settings⟩ := part
  have others : ((settings.map fun setting => setting.1 ++ "=" ++ setting.2).map
      String.toList).mapM Line.ofText? =
        some (settings.map fun setting => .setting setting.1.toList setting.2.toList) := by
    induction settings with
    | nil => rfl
    | cons setting settings inductionHypothesis =>
      obtain ⟨here, further⟩ := List.forall_mem_cons.mp plain
      rw [List.map_cons, List.map_cons, List.mapM_cons, inductionHypothesis further]
      simp [Line.ofText?_setting here]
  rw [Section.lines, List.map_cons, List.mapM_cons, others]
  simp

/-- A section with plain keys is what is read from its text, exactly if no line ends in it. -/
theorem sections?_written_iff {part : Section} (plain : part.HasPlainKeys) :
    sections? part.written = some [part] ↔ part.Lacks '\n' := by
  constructor
  · intro read
    exact lacks_of_sections? read part (List.mem_singleton_self part)
  · rintro ⟨title, settings⟩
    have apart : ∀ line ∈ part.lines.map String.toList, '\n' ∉ line := by
      simp only [List.forall_mem_map, Section.lines, List.forall_mem_cons]
      refine ⟨by simpa using title, fun setting member => ?_⟩
      simpa [Section.SettingLacks] using settings setting member
    have text : part.written.toList = (part.lines.map String.toList).flatMap (· ++ ['\n']) := by
      simp [Section.written, List.flatMap_map]
    simp [sections?, text, lines?_flatMap apart, mapM_lines plain, grouped, grouped_settings]

/-- There is a text from which a section with plain keys can be read, exactly if it can be read from
the text that is written for it. -/
theorem exists_sections?_iff {part : Section} (plain : part.HasPlainKeys) :
    (∃ text, sections? text = some [part]) ↔ sections? part.written = some [part] := by
  rw [sections?_written_iff plain]
  constructor
  · rintro ⟨text, read⟩
    exact lacks_of_sections? read part (List.mem_singleton_self part)
  · exact fun apart => ⟨part.written, (sections?_written_iff plain).mpr apart⟩

end RepositoryFile

namespace Repository

variable {repository : Repository} {name baseUrl : String}

/-- What the file of a repository is to say: its name, and for each key the declared value. The name
for readers is the repository's name if there is none, and the layout and the place of the key for
signatures are only there if they are declared. -/
def told (repository : Repository) (name baseUrl : String) : RepositoryFile.Section :=
  ⟨name, [("name", repository.description.getD name), ("baseurl", baseUrl),
    ("enabled", switch repository.enabled), ("gpgcheck", switch repository.signed)] ++
    (repository.layout.map fun layout => ("type", layout)).toList ++
    (repository.key.map fun key => ("gpgkey", key)).toList⟩

/-- The texts that are written into the file of a repository. -/
def texts (repository : Repository) (name baseUrl : String) : List String :=
  name :: repository.description.toList ++ baseUrl :: repository.layout.toList ++
    repository.key.toList

/-- The file of a repository is the text of what it is to say. -/
theorem contents_eq_written : repository.contents name baseUrl =
    (repository.told name baseUrl).written := by
  have same : repository.lines name baseUrl = (repository.told name baseUrl).lines := by
    cases layout : repository.layout <;> cases key : repository.key <;>
      simp [lines, told, RepositoryFile.Section.lines, layout, key]
  rw [contents, RepositoryFile.Section.written, same]

/-- The keys of repository files are plain, and each is there once. -/
theorem plainKeys_told (repository : Repository) (name baseUrl : String) :
    (repository.told name baseUrl).HasPlainKeys ∧
      ((repository.told name baseUrl).settings.map Prod.fst).Nodup := by
  unfold RepositoryFile.Section.HasPlainKeys
  cases layout : repository.layout <;> cases key : repository.key <;>
    simp [told, layout, key, RepositoryFile.Line.IsPlainKey]

/-- Nothing that the file of a repository is to say has a line end exactly if none of the texts that
are written into it has one. -/
theorem lacks_told_iff : (repository.told name baseUrl).Lacks '\n' ↔
    ∀ text ∈ repository.texts name baseUrl, '\n' ∉ text.toList := by
  have switched : ∀ on, '\n' ∉ (switch on).toList := by decide
  have enabled := switched repository.enabled
  have signed := switched repository.signed
  cases description : repository.description <;> cases layout : repository.layout <;>
    cases key : repository.key <;>
    simp [told, texts, RepositoryFile.Section.Lacks, RepositoryFile.Section.SettingLacks,
      description, layout, key, enabled, signed]

/-- The file of a repository is read as one section with the repository's name and the declared
value for each key, every one of which is there once, exactly if no text that is written into it has
a line end. -/
theorem reads_back_iff (repository : Repository) (name baseUrl : String) :
    ((repository.told name baseUrl).settings.map Prod.fst).Nodup ∧
      (RepositoryFile.sections? (repository.contents name baseUrl) =
          some [repository.told name baseUrl] ↔
        ∀ text ∈ repository.texts name baseUrl, '\n' ∉ text.toList) := by
  obtain ⟨plain, once⟩ := plainKeys_told repository name baseUrl
  rw [contents_eq_written, RepositoryFile.sections?_written_iff plain, lacks_told_iff]
  exact ⟨once, Iff.rfl⟩

/-- A repository whose signatures are checked, with a line end in its name for readers. -/
def twoLined : Repository :=
  { ofIdentifier "epel" with description := some "EPEL\ngpgcheck=0" }

/-- A line end in the name for readers starts a line of its own, and this line can say that the
signatures are not checked. -/
theorem not_says_signed :
    twoLined.signed = true ∧
      RepositoryFile.sections? (twoLined.contents "epel" "https://mirror/epel") =
        some [⟨"epel", [("name", "EPEL"), ("gpgcheck", "0"), ("baseurl", "https://mirror/epel"),
          ("enabled", "1"), ("gpgcheck", "1")]⟩] ∧
      RepositoryFile.sections? (twoLined.contents "epel" "https://mirror/epel") ≠
        some [twoLined.told "epel" "https://mirror/epel"] := by
  decide

end Repository

end FleetPlan
