import Mathlib.Data.Char
import Mathlib.Data.List.Lex
import PromptTemplate.Proofs.Expansion.Mappings
import PromptTemplate.Proofs.Loading.Reading
import PromptTemplate.Proofs.Text.Lines

set_option autoImplicit false

namespace PromptTemplate

namespace Text

theorem precedes_iff_not_lt {a b : Text} : precedes a b = true ↔ ¬ b < a := by
  induction a generalizing b with
  | nil => simp [precedes]
  | cons c as ih =>
      cases b with
      | nil => simp [precedes]
      | cons d bs =>
          have code : c.toNat < d.toNat ↔ c < d := Iff.rfl
          rw [precedes, Bool.or_eq_true, Bool.and_eq_true, decide_eq_true_eq, beq_iff_eq, ih, code,
            List.cons_lt_cons_iff, not_or, not_and]
          constructor
          · rintro (less | ⟨rfl, behind⟩)
            · exact ⟨less.asymm, fun same => absurd same less.ne'⟩
            · exact ⟨lt_irrefl c, fun _ => behind⟩
          · rintro ⟨least, behind⟩
            exact (not_lt.mp least).lt_or_eq.imp_right fun same => ⟨same, behind same.symm⟩

theorem pairwise_lt_mergeSort {texts : List Text} (nodup : texts.Nodup) :
    (texts.mergeSort precedes).Pairwise (· < ·) := by
  have sorted : (texts.mergeSort precedes).Pairwise fun a b => precedes a b = true := by
    refine List.pairwise_mergeSort ?_ ?_ texts
    · intro a b c first second
      rw [precedes_iff_not_lt, not_lt] at *
      exact first.trans second
    · intro a b
      rw [Bool.or_eq_true, precedes_iff_not_lt, precedes_iff_not_lt, not_lt, not_lt]
      exact le_total a b
  have different : (texts.mergeSort precedes).Nodup := (List.mergeSort_perm texts precedes).nodup_iff.mpr nodup
  refine (sorted.and different).imp fun {a b} both => ?_
  rw [precedes_iff_not_lt, not_lt] at both
  exact lt_of_le_of_ne both.1 both.2

end Text

/-- Line ends may be written as line feeds before the content of a definition is read. -/
theorem Definition.ofContent_normaliseBreaks (name content : Text) :
    ofContent name (Text.normaliseBreaks content) = ofContent name content := by
  rw [ofContent, ofContent, Text.contentLines_normaliseBreaks]

def Event.skips (fileName : Text) : Event → Bool
  | .skippedFile skipped _ => skipped == fileName
  | _ => false

namespace Catalog

/-! ### Stems -/

theorem stem_append_ending {body : Text} (present : body ≠ []) : stem (body ++ ending) = body := by
  have longer : ¬ (body ++ ending).length ≤ ending.length := by
    have positive := List.length_pos_iff.mpr present
    rw [List.length_append]
    omega
  rw [stem, if_neg longer, List.length_append, Nat.add_sub_cancel, List.take_left]

theorem eq_stem_append {fileName : Text} (ended : ending <:+ fileName) (valid : Name.fault? (stem fileName) = none) :
    fileName = stem fileName ++ ending := by
  obtain ⟨body, rfl⟩ := ended
  by_cases empty : body = []
  · subst empty
    exact absurd valid (by decide)
  · rw [stem_append_ending empty]

/-- Files with valid stems have different ones. -/
theorem eq_of_stem_eq {first second : Text} (ended : ending <:+ first) (valid : Name.fault? (stem first) = none)
    (others : ending <:+ second) (same : stem first = stem second) : first = second := by
  rw [eq_stem_append ended valid, same, ← eq_stem_append others (same ▸ valid)]

/-! ### Files in their order -/

section

variable (tree : FileTree) (directory : FilePath)

theorem mem_wildcardFiles_iff {fileName : Text} :
    fileName ∈ wildcardFiles tree directory ↔ fileName ∈ tree.children directory ∧ ending <:+ fileName := by
  rw [wildcardFiles, List.mem_mergeSort, List.mem_filter, List.isSuffixOf_iff_suffix]

theorem wildcardFiles_ascend : (wildcardFiles tree directory).Pairwise (· < ·) := by
  have different : (tree.children directory).Nodup := Reference.nodup_eraseDups _
  exact Text.pairwise_lt_mergeSort (different.filter _)

end

/-- What is noted of a file: that it is skipped, if its stem is no valid name. -/
def skipped? (fileName : Text) : Option Event :=
  (Name.fault? (stem fileName)).map (.skippedFile fileName)

def isNamed (fileName : Text) : Bool :=
  (Name.validate (stem fileName)).isValid

/-- The definitions of files with valid stems. -/
def definitions (contents : Text → Text) (fileNames : List Text) : Catalog :=
  (fileNames.filter isNamed).map fun fileName => .ofContent (stem fileName) (contents fileName)

theorem isNamed_iff {fileName : Text} : isNamed fileName = true ↔ Name.fault? (stem fileName) = none :=
  Name.isValid_validate_iff

/-- The run over the files: each one with a valid stem gives a definition, and each other one an event. -/
theorem loadFiles_eq {tree : FileTree} {directory : FilePath} {contents : Text → Text} {fileNames : List Text}
    (held : ∀ fileName ∈ fileNames, isNamed fileName = true →
      tree.HoldsText (directory.child fileName) (contents fileName)) :
    loadFiles tree directory fileNames =
      { events := fileNames.filterMap skipped?
        result := .ok (definitions contents fileNames) } := by
  induction fileNames with
  | nil => rfl
  | cons fileName rest ih =>
      obtain ⟨here, later⟩ := List.forall_mem_cons.mp held
      rw [loadFiles, ih later]
      cases judged : Name.fault? (stem fileName) with
      | some fault =>
          have unnamed : ¬ isNamed fileName = true := by simp [isNamed_iff, judged]
          have noted : skipped? fileName = some (.skippedFile fileName fault) := by rw [skipped?, judged]; rfl
          rw [List.filterMap_cons_some noted, definitions, definitions, List.filter_cons_of_neg unnamed]
      | none =>
          have named : isNamed fileName = true := isNamed_iff.mpr judged
          have unnoted : skipped? fileName = none := by rw [skipped?, judged]; rfl
          rw [List.filterMap_cons_none unnoted, definitions, definitions, List.filter_cons_of_pos named]
          simp only [(here named).readText, Except.map, Definition.ofContent_normaliseBreaks, List.map_cons]

theorem load_of_directory {tree : FileTree} {path : Text} {directory : FilePath} (read : Yaml.Reader)
    (opened : tree.entry (.ofText path) = .directory directory) :
    let loaded := loadFiles tree (.ofText path) (wildcardFiles tree directory)
    load tree path read = { loaded with result := loaded.result.map distinct } := by
  rw [load, opened]

/-- The map from the valid stems of files to what the files hold. -/
def contentMap (contents : Text → Text) (fileNames : List Text) : Mapping :=
  (fileNames.filter isNamed).map fun fileName => (.text (stem fileName), .lines (contents fileName))

theorem tidied_contentMap (contents : Text → Text) (fileNames : List Text) :
    (contentMap contents fileNames).definitions.map .tidied = definitions contents fileNames := by
  rw [Mapping.definitions, contentMap, definitions, List.map_map, List.map_map]
  apply List.map_congr_left
  intro fileName _
  exact congrArg (Definition.mk (stem fileName)) (Text.tidied_contentLines (contents fileName))

/-! ### Each file by itself -/

section

variable {fileNames : List Text} (different : fileNames.Nodup) (ended : ∀ fileName ∈ fileNames, ending <:+ fileName)

include different in
theorem filter_skips {fileName : Text} (member : fileName ∈ fileNames) :
    (fileNames.filterMap skipped?).filter (·.skips fileName) = (skipped? fileName).toList := by
  have alone : fileNames.filter (· == fileName) = [fileName] := by
    rw [List.filter_beq, List.count_eq_one_of_mem different member]
    rfl
  have own : ∀ other, (skipped? other).filter (·.skips fileName) =
      if other == fileName then skipped? other else none := by
    intro other
    cases judged : Name.fault? (stem other) <;> simp [skipped?, judged, Event.skips, Option.filter]
  calc (fileNames.filterMap skipped?).filter (·.skips fileName)
    _ = fileNames.filterMap fun other => if other == fileName then skipped? other else none := by
      rw [List.filter_filterMap, funext own]
    _ = [fileName].filterMap skipped? := by rw [← alone, List.filterMap_filter]
    _ = (skipped? fileName).toList := by cases found : skipped? fileName <;> simp [found]

include different ended

theorem nodup_names_definitions (contents : Text → Text) : ((definitions contents fileNames).map (·.name)).Nodup := by
  rw [definitions, List.map_map]
  refine List.Nodup.map_on ?_ (different.filter _)
  intro first among second others same
  rw [List.mem_filter] at among others
  exact eq_of_stem_eq (ended first among.1) (isNamed_iff.mp among.2) (ended second others.1) same

theorem filter_definitions (contents : Text → Text) {fileName : Text} (member : fileName ∈ fileNames) :
    (definitions contents fileNames).filter (·.name == stem fileName) =
      if isNamed fileName then [.ofContent (stem fileName) (contents fileName)] else [] := by
  split
  · next named =>
      have present : Definition.ofContent (stem fileName) (contents fileName) ∈ definitions contents fileNames :=
        List.mem_map.mpr ⟨fileName, List.mem_filter.mpr ⟨member, named⟩, rfl⟩
      exact filter_of_mem (nodup_names_definitions different ended contents) present
  · next unnamed =>
      rw [List.filter_eq_nil_iff, definitions, List.forall_mem_map]
      intro other among same
      have shared : stem other = stem fileName := beq_iff_eq.mp same
      rw [List.mem_filter, isNamed, shared] at among
      exact unnamed among.2

end

/-- A directory of text files is the map of its contents. If every file of the directory with the ending and a valid
stem holds a text in UTF-8, its line ends as they may be, the files with the ending have an ascending order, and
loading the directory, whatever reads documents, finds what the map from the valid stems to the texts describes, taken in this order, with no
name twice. What is noted are warnings, each of a file; and of each file it holds that it has the only definition of
its stem and is not noted, or that its stem is no valid name, nothing is defined under it, and it is noted once with
the fault. -/
theorem directory_is_map_of_contents {tree : FileTree} {path : Text} {directory : FilePath}
    (opened : tree.entry (.ofText path) = .directory directory) {contents : Text → Text}
    (held : ∀ fileName ∈ tree.children directory, ending <:+ fileName → (Name.validate (stem fileName)).isValid = true →
      tree.HoldsText ((FilePath.ofText path).child fileName) (contents fileName)) :
    ∃ (fileNames : List Text) (catalog : Catalog) (events : List Event),
      fileNames.Pairwise (· < ·) ∧
      (∀ fileName, fileName ∈ fileNames ↔ fileName ∈ tree.children directory ∧ ending <:+ fileName) ∧
      (∀ read, load tree path read = { events, result := .ok catalog }) ∧
      ofValue? (.map ((fileNames.filter fun fileName => (Name.validate (stem fileName)).isValid).map fun fileName =>
        (.text (stem fileName), .text (contents fileName)))) = .ok catalog ∧
      (catalog.map (·.name)).Nodup ∧
      (∀ event ∈ events, event.severity = .warning ∧ ∃ fileName ∈ fileNames, event.skips fileName = true) ∧
      ∀ fileName ∈ fileNames,
        let loaded := catalog.filter (·.name == stem fileName)
        let noted := events.filter (·.skips fileName)
        match Name.fault? (stem fileName) with
        | none => loaded = [.ofContent (stem fileName) (contents fileName)] ∧ noted = []
        | some fault => loaded = [] ∧ noted = [.skippedFile fileName fault] := by
  let fileNames := wildcardFiles tree directory
  have ascending : fileNames.Pairwise (· < ·) := wildcardFiles_ascend tree directory
  have different : fileNames.Nodup := ascending.imp ne_of_lt
  have among : ∀ fileName, fileName ∈ fileNames ↔ fileName ∈ tree.children directory ∧ ending <:+ fileName :=
    fun fileName => mem_wildcardFiles_iff tree directory
  have ended : ∀ fileName ∈ fileNames, ending <:+ fileName := fun fileName member => ((among fileName).mp member).2
  have nodup := nodup_names_definitions different ended contents
  have run := loadFiles_eq fun fileName member named =>
    held fileName ((among fileName).mp member).1 (ended fileName member) named
  refine ⟨fileNames, definitions contents fileNames, fileNames.filterMap skipped?, ascending, among, ?_, ?_, nodup,
    ?_, ?_⟩
  · intro read
    rw [load_of_directory read opened, run, Except.map, distinct_of_nodup nodup]
  · have described := Mapping.catalog_ofValue? (contentMap contents fileNames)
    rw [tidied_contentMap, distinct_of_nodup nodup, Mapping.value, contentMap, List.map_map] at described
    exact described
  · intro event member
    obtain ⟨fileName, listed, noted⟩ := List.mem_filterMap.mp member
    obtain ⟨fault, _, rfl⟩ := Option.map_eq_some_iff.mp noted
    exact ⟨rfl, fileName, listed, BEq.rfl⟩
  · intro fileName member loaded noted
    have defined : loaded = _ := filter_definitions different ended contents member
    have skipped : noted = _ := filter_skips different member
    cases judged : Name.fault? (stem fileName) with
    | none =>
        rw [if_pos (isNamed_iff.mpr judged)] at defined
        rw [skipped?, judged] at skipped
        exact ⟨defined, skipped⟩
    | some fault =>
        rw [if_neg (by simp [isNamed_iff, judged])] at defined
        rw [skipped?, judged] at skipped
        exact ⟨defined, skipped⟩

/-- Carriage returns end lines as line feeds do; the hidden file has its whole name as a stem, and a file with a
hyphen in its name is skipped, though it holds no text at all. -/
theorem directory_with_hidden_and_undecodable_files :
    let text := "x\r\ry\r\n\u2028 z \n".toList
    let tree : FileTree :=
      { files := [(.ofText "d/b.txt".toList, (String.ofList text).toUTF8), (.ofText "d/.txt".toList, ByteArray.empty),
          (.ofText "d/a-b.txt".toList, ⟨#[0xff]⟩), (.ofText "d/b.md".toList, ByteArray.empty)] }
    ∃ catalog events, load tree "d".toList = { events, result := .ok catalog } ∧
      catalog.filter (·.name == "b".toList) = [⟨"b".toList, ["x".toList, "y".toList, "z".toList]⟩] ∧
      events.filter (·.skips ".txt".toList) = [.skippedFile ".txt".toList .foreignCharacter] ∧
      events.filter (·.skips "a-b.txt".toList) = [.skippedFile "a-b.txt".toList .foreignCharacter] := by
  intro text tree
  have opened : tree.entry (.ofText "d".toList) = .directory (.ofText "d".toList) := rfl
  have children : tree.children (.ofText "d".toList) =
      ["b.txt".toList, ".txt".toList, "a-b.txt".toList, "b.md".toList] := by decide +kernel
  have held : ∀ fileName ∈ tree.children (.ofText "d".toList), ending <:+ fileName →
      (Name.validate (stem fileName)).isValid = true →
        tree.HoldsText ((FilePath.ofText "d".toList).child fileName) text := by
    rw [children]
    intro fileName member ended valid
    simp only [List.mem_cons, List.not_mem_nil, or_false] at member
    rcases member with rfl | rfl | rfl | rfl
    · rfl
    · exact absurd valid (by decide)
    · exact absurd valid (by decide)
    · exact absurd ended (by decide)
  obtain ⟨fileNames, catalog, events, _, among, loaded, _, _, _, each⟩ := directory_is_map_of_contents opened held
  have listed : ∀ fileName ∈ ["b.txt".toList, ".txt".toList, "a-b.txt".toList], fileName ∈ fileNames := by
    simp only [among, children]
    decide
  refine ⟨catalog, events, loaded _, ?_, ?_, ?_⟩
  · exact (each "b.txt".toList (listed _ (by decide))).1
  · exact (each ".txt".toList (listed _ (by decide))).2
  · exact (each "a-b.txt".toList (listed _ (by decide))).2

end Catalog

end PromptTemplate
