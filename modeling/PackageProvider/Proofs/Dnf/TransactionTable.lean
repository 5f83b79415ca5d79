import PackageProvider.Dnf.TransactionTable
import PackageProvider.Proofs.Text.LetterCase
import PackageProvider.Proofs.Text.Lines

set_option autoImplicit false

/-! The table of a transaction as it is printed: headings with rows below them, each row on one
line or on two. Reading the printed table gives the rows back. -/

namespace PackageProvider.Dnf

/-! ### What is printed -/

def IsSummary (line : List Char) : Prop := "Transaction Summary".toList <+: line

instance (line : List Char) : Decidable (IsSummary line) :=
  inferInstanceAs (Decidable (_ <+: line))

def IsIdle (line : List Char) : Prop := (∀ c ∈ line, Text.isBlank c = true) ∨ "=".toList <+: line

structure IsHeading (line : List Char) : Prop where
  notIndented : ¬ " ".toList <+: line
  noRuler : ¬ "=".toList <+: line
  noSummary : ¬ IsSummary line
  colon : ∃ front gap, line = front ++ ':' :: gap ∧ ∀ c ∈ gap, Text.isBlank c = true

structure Shows (line : List Char) (words : List String) : Prop where
  indented : " ".toList <+: line
  spaced : Text.Spaced line (words.map String.toList)

/-- The lines below a heading and the builds that they are about. A row stands on one line, or
its name stands alone and the rest on a line further down. What a row replaces is said on a line
of its own. -/
inductive Rows : List (List Char) → List Build → Prop where
  | done : Rows [] []
  | idle {line : List Char} {lines : List (List Char)} {builds : List Build}
      (idle : IsIdle line) (others : Rows lines builds) : Rows (line :: lines) builds
  | replacing {line : List Char} {first : String} {further : List String}
      {lines : List (List Char)} {builds : List Build}
      (shown : Shows line ("replacing" :: first :: further)) (others : Rows lines builds) :
      Rows (line :: lines) builds
  | row {line : List Char} {name arch evr : String} {further : List String}
      {lines : List (List Char)} {builds : List Build} (named : name ≠ "replacing")
      (shown : Shows line (name :: arch :: evr :: further)) (others : Rows lines builds) :
      Rows (line :: lines) (⟨name, evr, arch⟩ :: builds)
  | wrapped {line below : List Char} {name arch evr : String} {further : List String}
      {between lines : List (List Char)} {builds : List Build} (named : name ≠ "replacing")
      (aimed : arch ≠ "replacing") (alone : Shows line [name])
      (idle : ∀ line ∈ between, IsIdle line) (shown : Shows below (arch :: evr :: further))
      (others : Rows lines builds) :
      Rows (line :: between ++ below :: lines) (⟨name, evr, arch⟩ :: builds)

/-- The lines of sections and the transaction that they are about. What a heading begins with
decides what becomes of the builds below it. -/
inductive Sections : List (List Char) → Transaction → Prop where
  | done : Sections [] {}
  | installs {heading : List Char} {word : String} {lines below : List (List Char)}
      {builds : List Build} {transaction : Transaction} (opened : IsHeading heading)
      (verb : word ∈ ["installing", "upgrading", "downgrading", "reinstalling"])
      (announced : Text.Announces word heading) (rows : Rows lines builds)
      (others : Sections below transaction) :
      Sections (heading :: lines ++ below)
        { transaction with installs := builds ++ transaction.installs }
  | removals {heading : List Char} {lines below : List (List Char)} {builds : List Build}
      {transaction : Transaction} (opened : IsHeading heading)
      (announced : Text.Announces "removing" heading) (rows : Rows lines builds)
      (others : Sections below transaction) :
      Sections (heading :: lines ++ below)
        { transaction with removals := builds ++ transaction.removals }
  | ignored {heading : List Char} {lines below : List (List Char)} {builds : List Build}
      {transaction : Transaction} (opened : IsHeading heading)
      (unknown : ∀ word ∈ ["installing", "upgrading", "downgrading", "reinstalling", "removing"],
        ¬ Text.Announces word heading)
      (rows : Rows lines builds) (others : Sections below transaction) :
      Sections (heading :: lines ++ below) transaction

/-! ### Headings -/

theorem isFiller_iff (line : List Char) : isFiller line = true ↔ IsIdle line := by
  rw [isFiller, Bool.or_eq_true, List.isPrefixOf_iff_prefix, Text.allBlank, List.all_eq_true]
  rfl

theorem isHeader_iff (line : List Char) :
    isHeader line = true ↔
      ¬ " ".toList <+: line ∧
        ∃ front gap, line = front ++ ':' :: gap ∧ ∀ c ∈ gap, Text.isBlank c = true := by
  rw [isHeader, Bool.and_eq_true, beq_iff_eq, Text.getLast_trimEnd_iff (by decide),
    Bool.not_eq_true', ← Bool.not_eq_true, List.isPrefixOf_iff_prefix]

theorem IsHeading.not_idle {line : List Char} (heading : IsHeading line) : ¬ IsIdle line := by
  rintro (blank | ruler)
  · obtain ⟨front, gap, rfl, -⟩ := heading.colon
    cases blank ':' (List.mem_append_right front List.mem_cons_self)
  · exact heading.noRuler ruler

theorem Shows.not_isHeader {line : List Char} {words : List String} (shown : Shows line words) :
    ¬ isHeader line = true :=
  fun header => ((isHeader_iff line).mp header).1 shown.indented

theorem Shows.words_eq {line : List Char} {words : List String} (shown : Shows line words) :
    (Text.words line).map String.ofList = words := by
  have same : String.ofList ∘ String.toList = id := funext fun _ => String.ofList_toList
  rw [shown.spaced.words_eq, List.map_map, same, List.map_id]

theorem shows_iff {line : List Char} {words : List String} :
    Shows line words ↔
      " ".toList <+: line ∧ (Text.words line).map String.ofList = words := by
  constructor
  · intro shown
    exact ⟨shown.indented, shown.words_eq⟩
  · rintro ⟨indented, rfl⟩
    have same : String.toList ∘ String.ofList = id := funext fun _ => String.toList_ofList
    refine ⟨indented, ?_⟩
    obtain ⟨rest, rfl⟩ := indented
    rw [List.map_map, same, List.map_id]
    exact Text.spaced_words ⟨' ', rest, rfl, by decide⟩

theorem isHeading_iff {line : List Char} :
    IsHeading line ↔ isHeader line = true ∧ ¬ "=".toList <+: line ∧ ¬ IsSummary line := by
  rw [isHeader_iff]
  constructor
  · rintro ⟨notIndented, noRuler, noSummary, colon⟩
    exact ⟨⟨notIndented, colon⟩, noRuler, noSummary⟩
  · rintro ⟨⟨notIndented, colon⟩, noRuler, noSummary⟩
    exact ⟨notIndented, noRuler, noSummary, colon⟩

theorem Shows.not_idle {line : List Char} {word : String} {words : List String}
    (shown : Shows line (word :: words)) : ¬ IsIdle line := by
  rintro (blank | ruler)
  · have none := Text.words_append_of_blank blank []
    rw [List.append_nil, shown.spaced.words_eq] at none
    cases none
  · exact absurd (List.prefix_of_prefix_length_le shown.indented ruler (by decide)) (by decide)

theorem prefix_lowered_iff {word : String} (known : word ∈ installHeaders ++ removalHeaders)
    (line : List Char) :
    word.toList.isPrefixOf (Text.lower (Text.trim line)) = true ↔ Text.Announces word line := by
  have plain : ∀ word ∈ installHeaders ++ removalHeaders,
      word.toList ≠ [] ∧ Text.Searchable word.toList := by
    decide
  obtain ⟨some, searchable⟩ := plain word known
  rw [List.isPrefixOf_iff_prefix, Text.prefix_lower_trim_iff some searchable]

theorem begins_iff {words : List String} (known : words ⊆ installHeaders ++ removalHeaders)
    (line : List Char) :
    (words.any fun word => word.toList.isPrefixOf (Text.lower (Text.trim line))) = true ↔
      ∃ word ∈ words, Text.Announces word line := by
  rw [List.any_eq_true]
  exact exists_congr fun word =>
    and_congr_right fun member => prefix_lowered_iff (known member) line

theorem Section.ofHeader_installs {line : List Char} {word : String}
    (member : word ∈ installHeaders) (announced : Text.Announces word line) :
    Section.ofHeader (Text.trim line) = .installs :=
  if_pos ((begins_iff (List.subset_append_left _ _) line).mpr ⟨word, member, announced⟩)

/-- Nothing is installed and removed at once: no word for the one begins a word for the other. -/
theorem Section.ofHeader_removals {line : List Char} (announced : Text.Announces "removing" line) :
    Section.ofHeader (Text.trim line) = .removals := by
  have removes := (begins_iff (List.subset_append_right _ _) line).mpr
    ⟨"removing", List.mem_singleton_self _, announced⟩
  have installsNot : ¬ (installHeaders.any fun word =>
      word.toList.isPrefixOf (Text.lower (Text.trim line))) = true := by
    intro installs
    obtain ⟨word, member, begins⟩ := List.any_eq_true.mp installs
    have removing : "removing".toList <+: Text.lower (Text.trim line) :=
      List.isPrefixOf_iff_prefix.mp ((prefix_lowered_iff (by decide) line).mpr announced)
    have apart : ∀ word ∈ installHeaders,
        ¬ word.toList <+: "removing".toList ∧ ¬ "removing".toList <+: word.toList := by
      decide
    rcases List.prefix_or_prefix_of_prefix (List.isPrefixOf_iff_prefix.mp begins) removing with
      shorter | longer
    · exact (apart word member).1 shorter
    · exact (apart word member).2 longer
  exact (if_neg installsNot).trans (if_pos removes)

theorem Section.ofHeader_ignored {line : List Char}
    (unknown : ∀ word ∈ installHeaders ++ removalHeaders, ¬ Text.Announces word line) :
    Section.ofHeader (Text.trim line) = .ignored := by
  have neither : ∀ words ⊆ installHeaders ++ removalHeaders,
      ¬ (words.any fun word => word.toList.isPrefixOf (Text.lower (Text.trim line))) = true := by
    intro words known begins
    obtain ⟨word, member, announced⟩ := (begins_iff known line).mp begins
    exact unknown word (known member) announced
  exact (if_neg (neither _ (List.subset_append_left _ _))).trans
    (if_neg (neither _ (List.subset_append_right _ _)))

/-! ### Reading line by line -/

namespace TableReading

variable {reading : TableReading} {line : List Char}

theorem readLine_idle (idle : IsIdle line) : reading.readLine line = reading :=
  if_pos ((isFiller_iff line).mpr idle)

theorem readLine_heading (heading : IsHeading line) :
    reading.readLine line =
      { reading with current := some (.ofHeader (Text.trim line)), wrapped := none } := by
  rw [readLine, if_neg (mt (isFiller_iff line).mp heading.not_idle),
    if_pos ((isHeader_iff line).mpr ⟨heading.notIndented, heading.colon⟩)]

theorem readLine_shown {under : Section} {word : String} {words : List String}
    (current : reading.current = some under) (shown : Shows line (word :: words)) :
    reading.readLine line = reading.readRow under (word :: words) := by
  rw [readLine, if_neg (mt (isFiller_iff line).mp shown.not_idle), if_neg shown.not_isHeader,
    current, shown.words_eq]

theorem readLine_preamble (before : reading.current = none) (noHeading : ¬ IsHeading line)
    (noSummary : ¬ IsSummary line) : reading.readLine line = reading := by
  by_cases idle : IsIdle line
  · exact readLine_idle idle
  · have noHeader : ¬ isHeader line = true := by
      intro header
      obtain ⟨notIndented, colon⟩ := (isHeader_iff line).mp header
      exact noHeading ⟨notIndented, fun ruler => idle (.inr ruler), noSummary, colon⟩
    rw [readLine, if_neg (mt (isFiller_iff line).mp idle), if_neg noHeader, before]

theorem foldl_idle {lines : List (List Char)} (idle : ∀ line ∈ lines, IsIdle line)
    (reading : TableReading) : lines.foldl readLine reading = reading := by
  induction lines with
  | nil => rfl
  | cons line lines ih =>
      obtain ⟨here, later⟩ := List.forall_mem_cons.mp idle
      rw [List.foldl_cons, readLine_idle here, ih later]

theorem readRow_replacing (under : Section) (words : List String) :
    reading.readRow under ("replacing" :: words) = reading := by
  rw [readRow]

theorem readRow_alone {name : String} (named : name ≠ "replacing") (under : Section) :
    reading.readRow under [name] = { reading with wrapped := some name } := by
  rw [readRow]
  exact named

theorem unwrapped_eq (unwrapped : reading.wrapped = none) :
    ({ reading with wrapped := none } : TableReading) = reading := by
  rw [← unwrapped]

theorem readRow_columns {first second name arch evr : String} {further rest : List String}
    (plain : first ≠ "replacing")
    (columns : reading.wrapped.toList ++ first :: second :: further = name :: arch :: evr :: rest)
    (under : Section) :
    reading.readRow under (first :: second :: further) =
      ({ reading with wrapped := none } : TableReading).file under ⟨name, evr, arch⟩ := by
  rw [readRow, columns]
  · intro words same
    exact plain (List.cons.inj same).1
  · intro word same
    cases (List.cons.inj same).2

theorem foldl_file (under : Section) (builds : List Build) (reading : TableReading) :
    builds.foldl (fun reading build => reading.file under build) reading =
      { reading with
        transaction := {
          installs :=
            reading.transaction.installs ++ if under = .installs then builds else []
          removals :=
            reading.transaction.removals ++ if under = .removals then builds else [] } } := by
  induction builds generalizing reading with
  | nil => simp
  | cons build builds ih =>
      rw [List.foldl_cons, ih]
      cases under <;> simp [file]

end TableReading

/-! ### Reading what is printed -/

open TableReading

theorem Rows.run {lines : List (List Char)} {builds : List Build} (rows : Rows lines builds)
    {under : Section} {reading : TableReading} (current : reading.current = some under)
    (unwrapped : reading.wrapped = none) :
    lines.foldl readLine reading =
      builds.foldl (fun reading build => reading.file under build) reading := by
  -- no name is left standing alone between two rows
  induction rows generalizing reading with
  | done => rfl
  | idle idle _ ih => rw [List.foldl_cons, readLine_idle idle, ih current unwrapped]
  | replacing shown _ ih =>
      rw [List.foldl_cons, readLine_shown current shown, readRow_replacing, ih current unwrapped]
  | @row line name arch evr further _ _ named shown _ ih =>
      have columns : reading.wrapped.toList ++ name :: arch :: evr :: further =
          name :: arch :: evr :: further := by
        rw [unwrapped, Option.toList_none, List.nil_append]
      rw [List.foldl_cons, readLine_shown current shown, readRow_columns named columns,
        unwrapped_eq unwrapped, List.foldl_cons]
      exact ih current unwrapped
  | @wrapped line below name arch evr further between _ _ named aimed alone idle shown _ ih =>
      have first : readLine reading line = { reading with wrapped := some name } := by
        rw [readLine_shown current alone, readRow_alone named]
      have second : readLine { reading with wrapped := some name } below =
          reading.file under ⟨name, evr, arch⟩ := by
        have stays : ({ reading with wrapped := some name } : TableReading).current = some under :=
          current
        rw [readLine_shown stays shown, readRow_columns aimed rfl, unwrapped_eq unwrapped]
      rw [List.cons_append, List.foldl_cons, first, List.foldl_append, foldl_idle idle,
        List.foldl_cons, second, List.foldl_cons]
      exact ih current unwrapped

def Adds (lines : List (List Char)) (transaction : Transaction) : Prop :=
  ∀ reading : TableReading, ∃ current wrapped,
    lines.foldl readLine reading =
      { current
        wrapped
        transaction := {
          installs := reading.transaction.installs ++ transaction.installs
          removals := reading.transaction.removals ++ transaction.removals } } ∧
    (current = none ↔ lines = [] ∧ reading.current = none)

theorem Adds.nothing : Adds [] {} :=
  fun reading => ⟨reading.current, reading.wrapped, by simp, by simp⟩

theorem Adds.section {heading : List Char} {lines below : List (List Char)} {builds : List Build}
    {transaction : Transaction} {under : Section} (opened : IsHeading heading)
    (sorted : Section.ofHeader (Text.trim heading) = under) (rows : Rows lines builds)
    (others : Adds below transaction) :
    Adds (heading :: lines ++ below)
      { installs := (if under = .installs then builds else []) ++ transaction.installs
        removals := (if under = .removals then builds else []) ++ transaction.removals } := by
  intro reading
  obtain ⟨current, wrapped, runs, opens⟩ := others ((heading :: lines).foldl readLine reading)
  rw [List.foldl_cons, readLine_heading opened, sorted, rows.run rfl rfl, foldl_file] at runs opens
  refine ⟨current, wrapped, ?_, by simp [opens]⟩
  rw [List.foldl_append, List.foldl_cons, readLine_heading opened, sorted, rows.run rfl rfl,
    foldl_file, runs, List.append_assoc, List.append_assoc]

theorem Sections.adds {lines : List (List Char)} {transaction : Transaction}
    (sections : Sections lines transaction) : Adds lines transaction := by
  induction sections with
  | done => exact .nothing
  | installs opened verb announced rows _ ih =>
      exact .section opened (Section.ofHeader_installs verb announced) rows ih
  | removals opened announced rows _ ih =>
      exact .section opened (Section.ofHeader_removals announced) rows ih
  | ignored opened unknown rows _ ih =>
      exact .section opened (Section.ofHeader_ignored unknown) rows ih

/-! ### The whole text -/

theorem IsIdle.not_summary {line : List Char} (idle : IsIdle line) : ¬ IsSummary line := by
  intro summary
  obtain ⟨rest, rfl⟩ := summary
  rcases idle with blank | ruler
  · cases blank 'T' List.mem_cons_self
  · cases (List.cons_prefix_cons.mp ruler).1

theorem Shows.not_summary {line : List Char} {words : List String} (shown : Shows line words) :
    ¬ IsSummary line := by
  intro summary
  obtain ⟨rest, rfl⟩ := summary
  cases (List.cons_prefix_cons.mp shown.indented).1

theorem Rows.not_summary {lines : List (List Char)} {builds : List Build}
    (rows : Rows lines builds) : ∀ line ∈ lines, ¬ IsSummary line := by
  induction rows with
  | done => exact fun line impossible => nomatch impossible
  | idle idle _ ih => exact List.forall_mem_cons.mpr ⟨idle.not_summary, ih⟩
  | replacing shown _ ih => exact List.forall_mem_cons.mpr ⟨shown.not_summary, ih⟩
  | row _ shown _ ih => exact List.forall_mem_cons.mpr ⟨shown.not_summary, ih⟩
  | wrapped _ _ alone idle shown _ ih =>
      refine List.forall_mem_append.mpr ⟨?_, List.forall_mem_cons.mpr ⟨shown.not_summary, ih⟩⟩
      exact List.forall_mem_cons.mpr
        ⟨alone.not_summary, fun line member => (idle line member).not_summary⟩

theorem not_summary_of_section {heading : List Char} {lines below : List (List Char)}
    {builds : List Build} (opened : IsHeading heading) (rows : Rows lines builds)
    (others : ∀ line ∈ below, ¬ IsSummary line) :
    ∀ line ∈ heading :: lines ++ below, ¬ IsSummary line :=
  List.forall_mem_append.mpr
    ⟨List.forall_mem_cons.mpr ⟨opened.noSummary, rows.not_summary⟩, others⟩

theorem Sections.not_summary {lines : List (List Char)} {transaction : Transaction}
    (sections : Sections lines transaction) : ∀ line ∈ lines, ¬ IsSummary line := by
  induction sections with
  | done => exact fun line impossible => nomatch impossible
  | installs opened _ _ rows _ ih => exact not_summary_of_section opened rows ih
  | removals opened _ rows _ ih => exact not_summary_of_section opened rows ih
  | ignored opened _ rows _ ih => exact not_summary_of_section opened rows ih

theorem foldl_preamble {preamble : List (List Char)}
    (plain : ∀ line ∈ preamble, ¬ IsHeading line ∧ ¬ IsSummary line) :
    preamble.foldl readLine {} = {} := by
  induction preamble with
  | nil => rfl
  | cons line preamble ih =>
      obtain ⟨⟨noHeading, noSummary⟩, later⟩ := List.forall_mem_cons.mp plain
      rw [List.foldl_cons, readLine_preamble rfl noHeading noSummary, ih later]

theorem takeWhile_table {table ending : List (List Char)}
    (within : ∀ line ∈ table, ¬ IsSummary line)
    (ends : ending = [] ∨ ∃ summary rest, ending = summary :: rest ∧ IsSummary summary) :
    (table ++ ending).takeWhile (fun line => !"Transaction Summary".toList.isPrefixOf line) =
      table := by
  have kept : ∀ line ∈ table, (!"Transaction Summary".toList.isPrefixOf line) = true := by
    intro line member
    rw [Bool.not_eq_true', ← Bool.not_eq_true, List.isPrefixOf_iff_prefix]
    exact within line member
  rw [List.takeWhile_append_of_pos kept]
  rcases ends with rfl | ⟨summary, rest, rfl, found⟩
  · exact List.append_nil table
  · rw [List.takeWhile_cons_of_neg, List.append_nil]
    rw [Bool.not_eq_true', Bool.not_eq_false, List.isPrefixOf_iff_prefix]
    exact found

/-- A printed table is read as the transaction that it is about: the rows of the sections in
order, whatever stands before the first heading and from the summary on. Without a section there
is no table. -/
theorem readTransactionTable_printed {preamble table ending : List (List Char)}
    {transaction : Transaction} {text : List Char}
    (before : ∀ line ∈ preamble, ¬ IsHeading line ∧ ¬ IsSummary line)
    (sections : Sections table transaction)
    (ends : ending = [] ∨ ∃ summary rest, ending = summary :: rest ∧ IsSummary summary)
    (printed : Text.Printed (preamble ++ table ++ ending) text) :
    readTransactionTable text = if table = [] then none else some transaction := by
  have within : ∀ line ∈ preamble ++ table, ¬ IsSummary line :=
    List.forall_mem_append.mpr ⟨fun line member => (before line member).2, sections.not_summary⟩
  obtain ⟨current, wrapped, runs, opens⟩ := sections.adds {}
  rw [readTransactionTable, printed.lines_eq, takeWhile_table within ends, List.foldl_append,
    foldl_preamble before, runs]
  by_cases empty : table = []
  · have closed : current = none := opens.mpr ⟨empty, rfl⟩
    rw [closed, if_pos empty]
    rfl
  · have opened : current ≠ none := fun closed => empty (opens.mp closed).1
    obtain ⟨under, rfl⟩ := Option.ne_none_iff_exists'.mp opened
    rw [if_neg empty]
    rfl

def upgradeTable : List String := [
  "Installing:",
  " a-really-long-package-name-that-wraps",
  "          noarch  2.1-1.fc40     fedora    10 k",
  "Upgrading:",
  " bash     x86_64  5.2.26-3.fc40  updates  1.8 M",
  "     replacing  bash.x86_64 5.2.26-1.fc40",
  "Removing:",
  " nano     x86_64  7.2-6.fc40     @fedora  2.7 M",
  ""]

def upgradeTransaction : Transaction where
  installs := [⟨"a-really-long-package-name-that-wraps", "2.1-1.fc40", "noarch"⟩,
    ⟨"bash", "5.2.26-3.fc40", "x86_64"⟩]
  removals := [⟨"nano", "7.2-6.fc40", "x86_64"⟩]

theorem upgradeTable_sections : Sections (upgradeTable.map String.toList) upgradeTransaction := by
  have heading : ∀ line ∈ ["Installing:", "Upgrading:", "Removing:"], IsHeading line.toList := by
    intro line member
    rw [isHeading_iff]
    revert line
    decide
  have long : Shows " a-really-long-package-name-that-wraps".toList
      ["a-really-long-package-name-that-wraps"] := shows_iff.mpr (by decide +kernel)
  have below : Shows "          noarch  2.1-1.fc40     fedora    10 k".toList
      ["noarch", "2.1-1.fc40", "fedora", "10", "k"] := shows_iff.mpr (by decide +kernel)
  have bash : Shows " bash     x86_64  5.2.26-3.fc40  updates  1.8 M".toList
      ["bash", "x86_64", "5.2.26-3.fc40", "updates", "1.8", "M"] :=
    shows_iff.mpr (by decide +kernel)
  have older : Shows "     replacing  bash.x86_64 5.2.26-1.fc40".toList
      ["replacing", "bash.x86_64", "5.2.26-1.fc40"] := shows_iff.mpr (by decide +kernel)
  have nano : Shows " nano     x86_64  7.2-6.fc40     @fedora  2.7 M".toList
      ["nano", "x86_64", "7.2-6.fc40", "@fedora", "2.7", "M"] := shows_iff.mpr (by decide +kernel)
  have removing := Sections.removals (heading "Removing:" (by decide))
    ⟨[], "Removing".toList, ":".toList, rfl, List.forall_mem_nil _, by decide⟩
    (.row (by decide) nano (.idle (.inl (List.forall_mem_nil _)) .done)) .done
  have upgrading := Sections.installs (heading "Upgrading:" (by decide))
    (by decide : "upgrading" ∈ _)
    ⟨[], "Upgrading".toList, ":".toList, rfl, List.forall_mem_nil _, by decide⟩
    (.row (by decide) bash (.replacing older .done)) removing
  exact .installs (heading "Installing:" (by decide)) (by decide : "installing" ∈ _)
    ⟨[], "Installing".toList, ":".toList, rfl, List.forall_mem_nil _, by decide⟩
    (.wrapped (by decide) (by decide) long (List.forall_mem_nil _) below .done) upgrading

def upgradeRun : List (List Char) :=
  ["Dependencies resolved.".toList] ++ upgradeTable.map String.toList ++
    ["Transaction Summary".toList, "====".toList]

theorem upgradeRun_read :
    readTransactionTable (upgradeRun.flatMap (· ++ ['\n'])) = some upgradeTransaction := by
  have before : ∀ line ∈ ["Dependencies resolved.".toList],
      ¬ IsHeading line ∧ ¬ IsSummary line := by
    simp only [isHeading_iff]
    decide
  have printed : Text.Printed upgradeRun (upgradeRun.flatMap (· ++ ['\n'])) :=
    .of_lines (by decide +kernel)
  exact readTransactionTable_printed before upgradeTable_sections
    (.inr ⟨_, _, rfl, List.prefix_rfl⟩) printed

/-- Remarks alone are not read as an empty table. -/
theorem readTransactionTable_unopened :
    ¬ ∀ (preamble table ending : List (List Char)) (transaction : Transaction) (text : List Char),
      (∀ line ∈ preamble, ¬ IsHeading line ∧ ¬ IsSummary line) → Sections table transaction →
      (ending = [] ∨ ∃ summary rest, ending = summary :: rest ∧ IsSummary summary) →
      Text.Printed (preamble ++ table ++ ending) text →
      readTransactionTable text = some transaction := by
  intro always
  have before : ∀ line ∈ ["Dependencies resolved.".toList],
      ¬ IsHeading line ∧ ¬ IsSummary line := by
    simp only [isHeading_iff]
    decide
  have printed : Text.Printed ["Dependencies resolved.".toList] "Dependencies resolved.\n".toList :=
    .ended (by decide) (by decide) .empty
  have absent : readTransactionTable "Dependencies resolved.\n".toList = none := by
    decide +kernel
  cases absent.symm.trans (always _ [] [] {} _ before .done (.inl rfl) printed)

end PackageProvider.Dnf
