import PackageProvider.Dnf.QueryOutput
import PackageProvider.Proofs.Results
import PackageProvider.Proofs.Text.Blank
import PackageProvider.Proofs.Text.Lines

set_option autoImplicit false

/-! Query output and the builds it is about. Each line that is not blank is about one build, and
what is printed of builds is read as these builds, whatever blank lines stand between them. -/

namespace PackageProvider.Dnf

open Text (allBlank isBlank trim)

/-- The line is about the build: its first three fields are those of the build, but for blanks
around them. -/
inductive Describes : List Char → Build → Prop where
  | fields {name evr arch rest : List Char} (nameTab : '\t' ∉ name) (evrTab : '\t' ∉ evr)
      (archTab : '\t' ∉ arch) (ends : rest = [] ∨ ∃ further, rest = '\t' :: further) :
      Describes (name ++ '\t' :: (evr ++ '\t' :: (arch ++ rest)))
        ⟨String.ofList (trim name), String.ofList (trim evr), String.ofList (trim arch)⟩

theorem splitWhere_of_no_tab {field : List Char} (none : '\t' ∉ field) :
    Text.splitWhere (· == '\t') field = [field] := by
  apply Text.splitWhere_of_plain
  intro c member
  rw [beq_eq_false_iff_ne]
  intro tab
  exact none (tab ▸ member)

theorem splitWhere_field {field : List Char} (none : '\t' ∉ field) (rest : List Char) :
    Text.splitWhere (· == '\t') (field ++ '\t' :: rest) =
      field :: Text.splitWhere (· == '\t') rest := by
  rw [Text.splitWhere_append_cons (by decide), splitWhere_of_no_tab none, List.singleton_append]

theorem Describes.buildOfLine_eq {line : List Char} {build : Build}
    (describes : Describes line build) : buildOfLine line = .ok build := by
  cases describes with
  | @fields name evr arch rest nameTab evrTab archTab ends =>
      have last : ∃ others, Text.splitWhere (· == '\t') (arch ++ rest) = arch :: others := by
        rcases ends with rfl | ⟨further, rfl⟩
        · rw [List.append_nil, splitWhere_of_no_tab archTab]
          exact ⟨[], rfl⟩
        · exact ⟨_, splitWhere_field archTab further⟩
      obtain ⟨others, pieces⟩ := last
      rw [buildOfLine, splitWhere_field nameTab, splitWhere_field evrTab, pieces]

theorem Describes.two_le_count {line : List Char} {build : Build}
    (describes : Describes line build) : 2 ≤ line.count '\t' := by
  cases describes with
  | fields => simp only [List.count_append, List.count_cons_self]; omega

theorem describes_or_refused (line : List Char) :
    (∃ build, Describes line build) ∨
      line.count '\t' < 2 ∧ ∃ error, buildOfLine line = .error error := by
  by_cases first : '\t' ∈ line
  · obtain ⟨name, behind, rfl, nameTab⟩ := List.eq_append_cons_of_mem first
    by_cases second : '\t' ∈ behind
    · obtain ⟨evr, others, rfl, evrTab⟩ := List.eq_append_cons_of_mem second
      left
      by_cases third : '\t' ∈ others
      · obtain ⟨arch, further, rfl, archTab⟩ := List.eq_append_cons_of_mem third
        exact ⟨_, .fields nameTab evrTab archTab (.inr ⟨further, rfl⟩)⟩
      · have whole := Describes.fields nameTab evrTab third (.inl rfl)
        rw [List.append_nil] at whole
        exact ⟨_, whole⟩
    · right
      constructor
      · rw [List.count_append, List.count_cons_self, List.count_eq_zero.mpr nameTab,
          List.count_eq_zero.mpr second]
        decide
      · rw [buildOfLine, splitWhere_field nameTab, splitWhere_of_no_tab second]
        exact ⟨_, rfl⟩
  · right
    constructor
    · rw [List.count_eq_zero.mpr first]
      decide
    · rw [buildOfLine, splitWhere_of_no_tab first]
      exact ⟨_, rfl⟩

theorem buildOfLine_eq_ok_iff {line : List Char} {build : Build} :
    buildOfLine line = .ok build ↔ Describes line build := by
  constructor
  · intro reads
    rcases describes_or_refused line with ⟨other, describes⟩ | ⟨_, error, refused⟩
    · rw [describes.buildOfLine_eq] at reads
      cases reads
      exact describes
    · rw [refused] at reads
      cases reads
  · exact Describes.buildOfLine_eq

theorem exists_describes_iff {line : List Char} :
    (∃ build, Describes line build) ↔ 2 ≤ line.count '\t' := by
  constructor
  · intro ⟨build, describes⟩
    exact describes.two_le_count
  · intro enough
    rcases describes_or_refused line with described | ⟨few, _⟩
    · exact described
    · omega

def filledLines (text : List Char) : List (List Char) :=
  (Text.lines text).filter fun line => !allBlank line

theorem readQueryOutput_eq_ok_iff {text : List Char} {builds : List Build} :
    readQueryOutput text = .ok builds ↔ List.Forall₂ Describes (filledLines text) builds := by
  rw [readQueryOutput, mapM_eq_ok_iff]
  simp only [buildOfLine_eq_ok_iff]
  rfl

theorem exists_forall₂_describes_iff {lines : List (List Char)} :
    (∃ builds, List.Forall₂ Describes lines builds) ↔ ∀ line ∈ lines, 2 ≤ line.count '\t' := by
  induction lines with
  | nil => simp
  | cons line lines ih =>
      rw [List.forall_mem_cons, ← exists_describes_iff, ← ih]
      constructor
      · intro ⟨builds, about⟩
        cases about with
        | cons here later => exact ⟨⟨_, here⟩, _, later⟩
      · intro ⟨⟨build, here⟩, builds, later⟩
        exact ⟨build :: builds, .cons here later⟩

/-! ### Builds as lines -/

structure IsField (field : String) : Prop where
  noTab : '\t' ∉ field.toList
  noNewline : '\n' ∉ field.toList
  starts : ∀ c, field.toList.head? = some c → isBlank c = false
  ends : ∀ c, field.toList.getLast? = some c → isBlank c = false

structure FitsLine (build : Build) : Prop where
  name : IsField build.name
  evr : IsField build.evr
  arch : IsField build.arch
  filled : ¬ (build.name = "" ∧ build.evr = "" ∧ build.arch = "")

theorem all_solid_iff {found : Option Char} :
    (found.all fun c => !isBlank c) = true ↔ ∀ c, found = some c → isBlank c = false := by
  simp only [Option.all_eq_true, Bool.not_eq_true']

instance (field : String) : Decidable (IsField field) :=
  decidable_of_iff
    (('\t' ∉ field.toList ∧ '\n' ∉ field.toList) ∧
      (field.toList.head?.all fun c => !isBlank c) = true ∧
        (field.toList.getLast?.all fun c => !isBlank c) = true)
    ⟨fun ⟨⟨noTab, noNewline⟩, starts, ends⟩ =>
        ⟨noTab, noNewline, all_solid_iff.mp starts, all_solid_iff.mp ends⟩,
      fun ⟨noTab, noNewline, starts, ends⟩ =>
        ⟨⟨noTab, noNewline⟩, all_solid_iff.mpr starts, all_solid_iff.mpr ends⟩⟩

instance (build : Build) : Decidable (FitsLine build) :=
  decidable_of_iff
    ((IsField build.name ∧ IsField build.evr ∧ IsField build.arch) ∧
      ¬ (build.name = "" ∧ build.evr = "" ∧ build.arch = ""))
    ⟨fun ⟨⟨name, evr, arch⟩, filled⟩ => ⟨name, evr, arch, filled⟩,
      fun ⟨name, evr, arch, filled⟩ => ⟨⟨name, evr, arch⟩, filled⟩⟩

def lineOf (build : Build) : List Char :=
  build.name.toList ++ '\t' :: (build.evr.toList ++ '\t' :: build.arch.toList)

/-- Builds printed one a line, with blank lines anywhere between them. -/
inductive Lists : List Char → List Build → Prop where
  | nothing {gap : List Char} (blank : allBlank gap = true) (single : '\n' ∉ gap) : Lists gap []
  | blank {gap rest : List Char} {builds : List Build} (blank : allBlank gap = true)
      (single : '\n' ∉ gap) (others : Lists rest builds) : Lists (gap ++ '\n' :: rest) builds
  | line {build : Build} {rest : List Char} {builds : List Build} (fits : FitsLine build)
      (others : Lists rest builds) : Lists (lineOf build ++ '\n' :: rest) (build :: builds)

theorem IsField.trim_eq {field : String} (plain : IsField field) :
    trim field.toList = field.toList := by
  have start : Text.trimStart field.toList = field.toList := by
    apply List.dropWhile_eq_self_iff.mpr
    intro some
    rw [plain.starts _ (List.head?_eq_getElem? ▸ List.getElem?_eq_getElem some)]
    exact Bool.false_ne_true
  rw [trim, start]
  apply List.rdropWhile_eq_self_iff.mpr
  intro some
  rw [plain.ends _ (List.getLast?_eq_some_getLast some)]
  exact Bool.false_ne_true

theorem allBlank_dropReturn {gap : List Char} (blank : allBlank gap = true) :
    allBlank (Text.dropReturn gap) = true := by
  rw [allBlank, List.all_eq_true] at blank ⊢
  intro c member
  rw [Text.dropReturn] at member
  split at member
  · exact blank c ((List.dropLast_sublist gap).subset member)
  · exact blank c member

theorem filledLines_blank {gap : List Char} (blank : allBlank gap = true) (single : '\n' ∉ gap)
    (rest : List Char) : filledLines (gap ++ '\n' :: rest) = filledLines rest := by
  rw [filledLines, Text.lines_append_newline single, List.filter_cons_of_neg, filledLines]
  rw [allBlank_dropReturn blank]
  decide

theorem FitsLine.not_mem_newline {build : Build} (fits : FitsLine build) : '\n' ∉ lineOf build := by
  have name := fits.name.noNewline
  have evr := fits.evr.noNewline
  have arch := fits.arch.noNewline
  simp [lineOf, name, evr, arch]

theorem FitsLine.dropReturn_eq {build : Build} (fits : FitsLine build) :
    Text.dropReturn (lineOf build) = lineOf build := by
  apply Text.dropReturn_of_plain
  -- The line ends in a tab or with the architecture, which ends in no blank.
  intro ends
  rw [lineOf, List.getLast?_append_cons, ← List.cons_append, List.getLast?_append_cons] at ends
  cases last : build.arch.toList.getLast? with
  | none =>
      rw [List.getLast?_eq_none_iff.mp last] at ends
      exact absurd ends (by decide)
  | some c =>
      rw [List.getLast?_cons, last] at ends
      cases ends
      exact absurd (fits.arch.ends _ last) (by decide)

theorem IsField.exists_solid {field : String} (plain : IsField field) (some : field ≠ "") :
    ∃ c ∈ field.toList, isBlank c = false := by
  cases chars : field.toList with
  | nil => exact absurd (String.toList_eq_nil_iff.mp chars) some
  | cons c rest => exact ⟨c, List.mem_cons_self, plain.starts c (by rw [chars, List.head?_cons])⟩

theorem FitsLine.not_allBlank {build : Build} (fits : FitsLine build) :
    allBlank (lineOf build) = false := by
  have solid : ∃ c ∈ lineOf build, isBlank c = false := by
    by_cases name : build.name = ""
    · by_cases evr : build.evr = ""
      · obtain ⟨c, member, solid⟩ :=
          fits.arch.exists_solid fun arch => fits.filled ⟨name, evr, arch⟩
        exact ⟨c, by simp [lineOf, member], solid⟩
      · obtain ⟨c, member, solid⟩ := fits.evr.exists_solid evr
        exact ⟨c, by simp [lineOf, member], solid⟩
    · obtain ⟨c, member, solid⟩ := fits.name.exists_solid name
      exact ⟨c, by simp [lineOf, member], solid⟩
  rw [allBlank, List.all_eq_false]
  obtain ⟨c, member, solid⟩ := solid
  exact ⟨c, member, by rw [solid]; exact Bool.false_ne_true⟩

theorem FitsLine.describes {build : Build} (fits : FitsLine build) :
    Describes (lineOf build) build := by
  have about := Describes.fields fits.name.noTab fits.evr.noTab fits.arch.noTab (.inl rfl)
  rw [List.append_nil, fits.name.trim_eq, fits.evr.trim_eq, fits.arch.trim_eq,
    String.ofList_toList, String.ofList_toList, String.ofList_toList] at about
  exact about

theorem filledLines_line {build : Build} (fits : FitsLine build) (rest : List Char) :
    filledLines (lineOf build ++ '\n' :: rest) = lineOf build :: filledLines rest := by
  rw [filledLines, Text.lines_append_newline fits.not_mem_newline, fits.dropReturn_eq,
    List.filter_cons_of_pos, filledLines]
  rw [fits.not_allBlank]
  rfl

theorem Lists.describes {text : List Char} {builds : List Build} (lists : Lists text builds) :
    List.Forall₂ Describes (filledLines text) builds := by
  induction lists with
  | @nothing gap blank single =>
      have none : filledLines gap = [] := by
        rw [filledLines, Text.lines_of_single single]
        split
        · rfl
        · rw [List.filter_cons_of_neg (by simp [blank]), List.filter_nil]
      rw [none]
      exact .nil
  | blank blank single _ ih =>
      rw [filledLines_blank blank single]
      exact ih
  | line fits _ ih =>
      rw [filledLines_line fits]
      exact .cons fits.describes ih

/-- Query output is read just if each line that is not blank has two tabs, and then as the builds
that these lines are about; and what is printed of builds is read as these builds. -/
theorem readQueryOutput_decodes :
    (∀ text, ∃ lines, Text.Printed lines text ∧
      let filled := lines.filter fun line => !allBlank line
      ((∃ builds, readQueryOutput text = .ok builds) ↔ ∀ line ∈ filled, 2 ≤ line.count '\t') ∧
        ∀ builds, readQueryOutput text = .ok builds → List.Forall₂ Describes filled builds) ∧
      ∀ text builds, Lists text builds → readQueryOutput text = .ok builds := by
  constructor
  · intro text
    refine ⟨Text.lines text, Text.printed_lines text, ?_, ?_⟩
    · simp only [readQueryOutput_eq_ok_iff]
      exact exists_forall₂_describes_iff
    · intro builds reads
      exact readQueryOutput_eq_ok_iff.mp reads
  · intro text builds lists
    exact readQueryOutput_eq_ok_iff.mpr lists.describes

theorem emptyArch_decodes :
    readQueryOutput "bash\t5.2-1\tx86_64\n \r\nfilesystem\t3-1\t\n".toList =
        .ok [⟨"bash", "5.2-1", "x86_64"⟩, ⟨"filesystem", "3-1", ""⟩] ∧
      List.Forall₂ Describes ["bash\t5.2-1\tx86_64".toList, "filesystem\t3-1\t".toList]
        [⟨"bash", "5.2-1", "x86_64"⟩, ⟨"filesystem", "3-1", ""⟩] := by
  obtain ⟨decodes, reads⟩ := readQueryOutput_decodes
  have bash : FitsLine ⟨"bash", "5.2-1", "x86_64"⟩ := by decide
  have filesystem : FitsLine ⟨"filesystem", "3-1", ""⟩ := by decide
  have unfinished : Lists [] [] := .nothing rfl List.not_mem_nil
  have between : Lists (" \r\nfilesystem\t3-1\t\n".toList) [⟨"filesystem", "3-1", ""⟩] :=
    Lists.blank (show allBlank [' ', '\r'] = true by decide) (by decide)
      (.line filesystem unfinished)
  have read := reads _ _ (.line bash between)
  obtain ⟨lines, printed, -, about⟩ :=
    decodes "bash\t5.2-1\tx86_64\n \r\nfilesystem\t3-1\t\n".toList
  have filled := about _ read
  rw [← printed.lines_eq] at filled
  exact ⟨read, filled⟩

end PackageProvider.Dnf
