import PackageProvider.Proofs.Memory.Inventory
import PackageProvider.Proofs.Recorded

set_option autoImplicit false

/-! Taking stock of the requested names: they are parted into those that are present, those that
are absent, and those that the engine does not know. -/

namespace PackageProvider

namespace Inventory

/-- The present builds are the latest of the reported ones. The absent names are those on offer
that no reported build has, each at its first occurrence. -/
structure Partitions (inventory : Inventory) (reported offered : List Build) : Prop where
  present : AreLatest reported inventory.present
  absent : inventory.absent =
    ((offered.map Build.name).filter fun name => name ∉ reported.map Build.name).eraseDups
  once : inventory.absent.Nodup
  apart : ∀ build ∈ inventory.present, build.name ∉ inventory.absent

def Reports (inventory : Inventory) (name : String) : Prop :=
  (∃ build ∈ inventory.present, build.name = name) ∨ name ∈ inventory.absent

theorem absentNames_latestPerArch (reported offered : List Build) :
    absentNames (latestPerArch reported) offered =
      ((offered.map Build.name).filter fun name =>
        name ∉ reported.map Build.name).eraseDups := by
  have same (name : String) : (!(latestPerArch reported).any fun other => other.name == name) =
      decide (name ∉ reported.map Build.name) := by
    rw [Bool.eq_iff_iff, Bool.not_eq_true', ← Bool.not_eq_true, decide_eq_true_iff, List.mem_map,
      ← exists_latestPerArch_iff]
    simp only [List.any_eq_true, beq_iff_eq]
  rw [absentNames_eq]
  simp only [same]

theorem partitions_latestPerArch (reported offered : List Build) :
    Partitions ⟨latestPerArch reported, absentNames (latestPerArch reported) offered⟩
      reported offered where
  present := areLatest_latestPerArch reported
  absent := absentNames_latestPerArch reported offered
  once := nodup_absentNames _ offered
  apart := fun build member listed => (mem_absentNames.mp listed).2 build member rfl

theorem Partitions.present_iff {inventory : Inventory} {reported offered : List Build}
    (parts : inventory.Partitions reported offered) {name : String} :
    (∃ build ∈ inventory.present, build.name = name) ↔
      ∃ build ∈ reported, build.name = name := by
  constructor
  · rintro ⟨build, member, named⟩
    exact ⟨build, (parts.present.latest build member).mem, named⟩
  · rintro ⟨build, member, named⟩
    obtain ⟨kept, there, same⟩ := parts.present.exists_of_mem member
    exact ⟨kept, there, (Build.key_eq_iff.mp same).1.trans named⟩

theorem Partitions.reports_iff {inventory : Inventory} {reported offered : List Build}
    (parts : inventory.Partitions reported offered) {name : String} :
    inventory.Reports name ↔
      (∃ build ∈ reported, build.name = name) ∨ ∃ build ∈ offered, build.name = name := by
  rw [Reports, parts.present_iff, parts.absent, List.mem_eraseDups, List.mem_filter,
    decide_eq_true_iff, List.mem_map, List.mem_map]
  constructor
  · exact Or.imp_right And.left
  · rintro (there | offers)
    · exact .inl there
    · by_cases there : ∃ build ∈ reported, build.name = name
      · exact .inl there
      · exact .inr ⟨offers, there⟩

end Inventory

/-! ### The run of taking stock -/

section

variable {World Handle : Type} {engine : Engine World Handle} {names : List String}
  {state after : Journaled (World × Handle)} {reported offered : List Build}

theorem takeStock_of_no_names (answered : engine.installed [] state = .ok reported after) :
    ∃ journal, engine.takeStock [] state =
      .ok { present := latestPerArch reported } ⟨after.world, journal⟩ := by
  rw [Engine.takeStock, Act.bind_apply, observe_apply answered]
  exact ⟨_, rfl⟩

theorem takeStock_of_names (some : names ≠ []) {final : Journaled (World × Handle)}
    (answered : engine.installed names state = .ok reported after)
    (offers : engine.available names ((engine.observe names).outcome state).2 =
      .ok offered final) :
    engine.takeStock names state =
      .ok ⟨latestPerArch reported, Inventory.absentNames (latestPerArch reported) offered⟩
        final := by
  rw [Act.outcome, observe_apply answered] at offers
  rw [Engine.takeStock, Act.bind_apply, observe_apply answered,
    List.isEmpty_eq_false_iff.mpr some]
  simp only [Bool.false_eq_true, if_false, Act.bind_apply, offers, Act.pure_apply]

theorem recorded_takeStock_of_no_names (answered : engine.installed [] state = .ok reported after) :
    ∃ final, engine.recorded.takeStock [] (Recorded.start state) =
        .ok { present := latestPerArch reported } final ∧
      final.world.1.calls = [.installed [] (.ok reported)] := by
  have recorded : engine.recorded.installed [] (Recorded.start state) = .ok reported _ :=
    Recorded.installed_of_ok answered
  obtain ⟨journal, stocked⟩ := takeStock_of_no_names recorded
  exact ⟨_, stocked, rfl⟩

theorem recorded_takeStock_of_names (some : names ≠ []) {left : Journaled (World × Handle)}
    (answered : engine.installed names state = .ok reported after)
    (offers : engine.available names ((engine.observe names).outcome state).2 =
      .ok offered left) :
    ∃ final, engine.recorded.takeStock names (Recorded.start state) =
        .ok ⟨latestPerArch reported, Inventory.absentNames (latestPerArch reported) offered⟩
          final ∧
      final.world.1.calls =
        [.installed names (.ok reported), .available names (.ok offered)] := by
  have recorded : engine.recorded.installed names (Recorded.start state) = .ok reported _ :=
    Recorded.installed_of_ok answered
  have seen := Act.outcome_of_ok (observe_apply recorded)
  have offersHere : engine.available names (Recorded.forget
      ((engine.recorded.observe names).outcome (Recorded.start state)).2) = .ok offered left := by
    rw [Act.outcome_of_ok (observe_apply answered)] at offers
    rw [seen]
    exact offers
  refine ⟨_, takeStock_of_names some recorded (Recorded.available_of_ok offersHere), ?_⟩
  rw [seen]
  rfl

end

namespace Memory

variable {database : Database} {handle : Handle} {names : List String}

theorem takeStock_succeeds (isOpen : handle.isClosed = false) (calm : ¬ database.IsArmed)
    (journal : List JournalEntry) :
    ((engine.takeStock names).outcome ⟨(database, handle), journal⟩).1 =
      .ok (database.inventory names) := by
  have ensured : (engine.takeStock names).Ensures (database, handle) _ :=
    takeStock_ensures names isOpen
  have stocked := ensured journal
  cases came : ((engine.takeStock names).outcome ⟨(database, handle), journal⟩).1 with
  | ok inventory =>
      rw [came] at stocked
      rw [stocked.2.2]
  | error error =>
      rw [came] at stocked
      exact (calm stocked.2.2).elim

theorem inventory_partitions (database : Database) (some : names ≠ []) :
    (database.inventory names).Partitions (Database.named names database.installed)
      (Database.named names database.available) := by
  rw [Database.inventory, List.isEmpty_eq_false_iff.mpr some]
  exact Inventory.partitions_latestPerArch _ _

theorem exists_named_iff {builds : List Build} (some : names ≠ []) {name : String} :
    (∃ build ∈ Database.named names builds, build.name = name) ↔
      name ∈ names ∧ ∃ build ∈ builds, build.name = name := by
  have member (build : Build) :
      build ∈ Database.named names builds ↔ build ∈ builds ∧ build.name ∈ names := by
    rw [Database.named, List.mem_filter, List.isEmpty_eq_false_iff.mpr some, Bool.false_or,
      List.contains_iff_mem]
  constructor
  · rintro ⟨build, found, named⟩
    obtain ⟨there, asked⟩ := (member build).mp found
    exact ⟨named ▸ asked, build, there, named⟩
  · rintro ⟨asked, build, there, named⟩
    exact ⟨build, (member build).mpr ⟨there, named.symm ▸ asked⟩, named⟩

theorem inventory_present_iff (some : names ≠ []) {name : String} :
    (∃ build ∈ (database.inventory names).present, build.name = name) ↔
      name ∈ names ∧ ∃ build ∈ database.installed, build.name = name :=
  (inventory_partitions database some).present_iff.trans (exists_named_iff some)

theorem inventory_reports_iff (some : names ≠ []) {name : String} :
    (database.inventory names).Reports name ↔
      name ∈ names ∧ ((∃ build ∈ database.installed, build.name = name) ∨
        ∃ build ∈ database.available, build.name = name) := by
  rw [(inventory_partitions database some).reports_iff, exists_named_iff some,
    exists_named_iff some, ← and_or_left]

end Memory

/-- Whatever an engine reports as installed and offers, taking stock of some names parts them
into present and absent ones, and taking stock of everything lists nothing as absent and asks for
no offers. Stock of a database in memory lists the requested names that it knows, as present
exactly if they are installed. -/
theorem takeStock_partitions :
    (∀ {World Handle : Type} (engine : Engine World Handle) (names : List String)
      (state : Journaled (World × Handle)) (reported : List Build),
      ((engine.installed names).outcome state).1 = .ok reported →
      let run := (engine.recorded.takeStock names).outcome (Recorded.start state)
      (engine.takeStock names).outcome state = (run.1, Recorded.forget run.2) ∧
        (names = [] → ∃ inventory, run.1 = .ok inventory ∧
          AreLatest reported inventory.present ∧ inventory.absent = [] ∧
          run.2.world.1.calls = [.installed names (.ok reported)]) ∧
        (names ≠ [] → ∀ offered,
          ((engine.available names).outcome ((engine.observe names).outcome state).2).1 =
            .ok offered →
          ∃ inventory, run.1 = .ok inventory ∧ inventory.Partitions reported offered ∧
            run.2.world.1.calls =
              [.installed names (.ok reported), .available names (.ok offered)])) ∧
      ∀ (database : Memory.Database) (handle : Memory.Handle) (names : List String)
        (journal : List JournalEntry),
        ¬ database.IsArmed → handle.isClosed = false → names ≠ [] →
        ∃ inventory, ((Memory.engine.takeStock names).outcome ⟨(database, handle), journal⟩).1 =
            .ok inventory ∧
          ∀ name,
            (inventory.Reports name ↔ name ∈ names ∧
              ((∃ build ∈ database.installed, build.name = name) ∨
                ∃ build ∈ database.available, build.name = name)) ∧
            (inventory.Reports name → ((∃ build ∈ inventory.present, build.name = name) ↔
              ∃ build ∈ database.installed, build.name = name)) := by
  refine ⟨?_, ?_⟩
  · intro World Handle engine names state reported reports run
    obtain ⟨after, answered⟩ := Act.ok_of_outcome reports
    refine ⟨Recorded.takeStock_mirrors.outcome state, ?_, ?_⟩
    · rintro rfl
      obtain ⟨final, stocked, calls⟩ := recorded_takeStock_of_no_names answered
      have ran : run = _ := Act.outcome_of_ok stocked
      rw [ran]
      exact ⟨_, rfl, areLatest_latestPerArch reported, rfl, calls⟩
    · intro some offered offers
      obtain ⟨left, offersThere⟩ := Act.ok_of_outcome offers
      obtain ⟨final, stocked, calls⟩ := recorded_takeStock_of_names some answered offersThere
      have ran : run = _ := Act.outcome_of_ok stocked
      rw [ran]
      exact ⟨_, rfl, Inventory.partitions_latestPerArch reported offered, calls⟩
  · intro database handle names journal calm isOpen some
    refine ⟨database.inventory names, Memory.takeStock_succeeds isOpen calm journal, ?_⟩
    intro name
    refine ⟨Memory.inventory_reports_iff some, fun listed => ?_⟩
    rw [Memory.inventory_present_iff some]
    exact and_iff_right ((Memory.inventory_reports_iff some).mp listed).1

def glibcStock : Memory.Database :=
  { installed := [⟨"glibc", "2.38-1", "x86_64"⟩, ⟨"glibc", "2.39-1", "i686"⟩,
      ⟨"glibc", "2.39-1", "x86_64"⟩]
    available := [⟨"tree", "1.8-1", "x86_64"⟩, ⟨"glibc", "2.40-1", "x86_64"⟩,
      ⟨"tree", "2.1-1", "x86_64"⟩] }

def glibcHandle : Journaled (Memory.Database × Memory.Handle) := ⟨(glibcStock, {}), []⟩

theorem glibcStock_partitions :
    (∃ inventory, ((Memory.engine.takeStock []).outcome glibcHandle).1 = .ok inventory ∧
        AreLatest glibcStock.installed inventory.present ∧ inventory.absent = []) ∧
      (∃ inventory,
        ((Memory.engine.takeStock ["tree", "glibc", "tree"]).outcome glibcHandle).1 =
          .ok inventory ∧
        inventory.Partitions glibcStock.installed glibcStock.available) ∧
      ∃ inventory,
        ((Memory.engine.takeStock ["tree", "ghost"]).outcome glibcHandle).1 = .ok inventory ∧
        inventory.Reports "tree" ∧ ¬ inventory.Reports "ghost" ∧ ¬ inventory.Reports "glibc" := by
  obtain ⟨any, memory⟩ := takeStock_partitions
  refine ⟨?_, ?_, ?_⟩
  · obtain ⟨same, everything, -⟩ :=
      any Memory.engine [] glibcHandle glibcStock.installed (by decide +kernel)
    obtain ⟨inventory, ran, present, absent, -⟩ := everything rfl
    exact ⟨inventory, (congrArg Prod.fst same).trans ran, present, absent⟩
  · obtain ⟨same, -, some⟩ := any Memory.engine ["tree", "glibc", "tree"] glibcHandle
      glibcStock.installed (by decide +kernel)
    obtain ⟨inventory, ran, parts, -⟩ :=
      some (List.cons_ne_nil _ _) glibcStock.available (by decide +kernel)
    exact ⟨inventory, (congrArg Prod.fst same).trans ran, parts⟩
  · have calm : ¬ glibcStock.IsArmed := Memory.Database.calm_of_no_rules rfl
    obtain ⟨inventory, ran, reports⟩ :=
      memory glibcStock {} ["tree", "ghost"] [] calm rfl (List.cons_ne_nil _ _)
    refine ⟨inventory, ran, (reports "tree").1.mpr (by decide), ?_, ?_⟩
    · exact fun listed => absurd ((reports "ghost").1.mp listed) (by decide)
    · exact fun listed => absurd ((reports "glibc").1.mp listed) (by decide)

end PackageProvider
