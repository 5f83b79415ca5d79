import PackageProvider.Proofs.Memory.Cascade
import PackageProvider.Proofs.Memory.Selection
import PackageProvider.Proofs.Results

set_option autoImplicit false

/-! What a resolved transaction accounts for. Each directive extends the account by what it
selects, and the account of a whole goal follows directive by directive. -/

namespace PackageProvider.Memory

namespace Database

variable {database : Database} {goal : List Directive} {directive : Directive}
  {transaction extended : Transaction} {selection : Selection} {build : Build}

def Chosen (database : Database) (goal : List Directive) (build : Build) : Prop :=
  ∃ directive ∈ goal, database.select directive = .ok (.install build)

def Condemned (database : Database) (goal : List Directive) (build : Build) : Prop :=
  ∃ directive ∈ goal, ∃ victims,
    database.select directive = .ok (.remove victims) ∧ build ∈ victims

theorem chosen_concat :
    database.Chosen (goal ++ [directive]) build ↔
      database.Chosen goal build ∨ database.select directive = .ok (.install build) := by
  simp only [Chosen, List.mem_append, List.mem_singleton, or_and_right, exists_or, exists_eq_left]

theorem condemned_concat :
    database.Condemned (goal ++ [directive]) build ↔
      database.Condemned goal build ∨
        ∃ victims, database.select directive = .ok (.remove victims) ∧ build ∈ victims := by
  simp only [Condemned, List.mem_append, List.mem_singleton, or_and_right, exists_or,
    exists_eq_left]

theorem extend_install_cases
    (result : database.extend transaction (.install build) = .ok extended) :
    (hasName transaction.installs build.name = true ∧ extended = transaction) ∨
      (hasName transaction.installs build.name = false ∧
        ∃ provided, database.provide (transaction.installs ++ [build])
            (database.demands build.name) = .ok provided ∧
          extended = { transaction with installs := provided }) := by
  by_cases taken : hasName transaction.installs build.name = true
  · rw [extend, if_pos taken] at result
    exact .inl ⟨taken, (Except.ok.inj result).symm⟩
  · rw [extend, if_neg taken] at result
    obtain ⟨provided, provides, same⟩ := bind_eq_ok_iff.mp result
    exact .inr ⟨Bool.eq_false_iff.mpr taken, provided, provides, (Except.ok.inj same).symm⟩

theorem extend_cases (result : database.extend transaction selection = .ok extended) :
    extended = transaction ∨
      (∃ victims, selection = .remove victims ∧
        extended =
          { transaction with removals := database.cascade transaction.removals victims }) ∨
      ∃ build provided, selection = .install build ∧
        hasName transaction.installs build.name = false ∧
        database.provide (transaction.installs ++ [build]) (database.demands build.name) =
          .ok provided ∧
        extended = { transaction with installs := provided } := by
  cases selection with
  | nothing remark => exact .inl (Except.ok.inj result).symm
  | remove victims => exact .inr (.inl ⟨victims, rfl, (Except.ok.inj result).symm⟩)
  | install build =>
      rcases extend_install_cases result with ⟨-, same⟩ | ⟨fresh, provided, provides, same⟩
      · exact .inl same
      · exact .inr (.inr ⟨build, provided, rfl, fresh, provides, same⟩)

/-- What a transaction made of a goal so far consists of: one build for each installed name,
brought in by what was chosen, a build of the name of everything chosen, and just the builds
that fall with what was condemned. -/
structure Accounts (database : Database) (goal : List Directive) (transaction : Transaction) :
    Prop where
  selects : ∀ directive ∈ goal, ∃ selection, database.select directive = .ok selection
  distinct : (transaction.installs.map Build.name).Nodup
  brought : ∀ build ∈ transaction.installs,
    Brought database transaction.installs (database.Chosen goal) build
  taken : ∀ build, database.Chosen goal build → hasName transaction.installs build.name = true
  removes : ∀ build, build ∈ transaction.removals ↔ Falls database (database.Condemned goal) build

namespace Accounts

theorem nil (database : Database) : Accounts database [] {} where
  selects := fun _ impossible => nomatch impossible
  distinct := List.nodup_nil
  brought := fun _ impossible => nomatch impossible
  taken := fun _ ⟨_, impossible, _⟩ => nomatch impossible
  removes := by
    intro build
    refine ⟨fun impossible => (nomatch impossible), fun falls => ?_⟩
    obtain ⟨_, ⟨_, impossible, _⟩, _⟩ := falls.reaches
    cases impossible

variable (accounts : Accounts database goal transaction)

include accounts

theorem selects_concat (selected : database.select directive = .ok selection) :
    ∀ other ∈ goal ++ [directive], ∃ selection, database.select other = .ok selection := by
  intro other member
  rcases List.mem_append.mp member with early | single
  · exact accounts.selects other early
  · rw [List.mem_singleton.mp single]
    exact ⟨selection, selected⟩

theorem brought_concat (build : Build) (member : build ∈ transaction.installs) :
    Brought database transaction.installs (database.Chosen (goal ++ [directive])) build :=
  (accounts.brought build member).mono (fun _ same => same) fun _ chosen =>
    chosen_concat.mpr (.inl chosen)

theorem taken_concat (selected : database.select directive = .ok selection)
    (covered : ∀ build, selection = .install build →
      hasName transaction.installs build.name = true) (build : Build)
    (chosen : database.Chosen (goal ++ [directive]) build) :
    hasName transaction.installs build.name = true := by
  rcases chosen_concat.mp chosen with early | late
  · exact accounts.taken build early
  · rw [selected] at late
    exact covered build (Except.ok.inj late)

theorem removes_concat (selected : database.select directive = .ok selection)
    (spares : ∀ victims, selection ≠ .remove victims) (build : Build) :
    build ∈ transaction.removals ↔
      Falls database (database.Condemned (goal ++ [directive])) build := by
  have same : database.Condemned (goal ++ [directive]) = database.Condemned goal := by
    funext other
    refine propext (condemned_concat.trans (or_iff_left ?_))
    rintro ⟨victims, removes, -⟩
    rw [selected] at removes
    exact spares victims (Except.ok.inj removes)
  rw [same]
  exact accounts.removes build

theorem skip (selected : database.select directive = .ok selection)
    (covered : ∀ build, selection = .install build →
      hasName transaction.installs build.name = true)
    (spares : ∀ victims, selection ≠ .remove victims) :
    Accounts database (goal ++ [directive]) transaction where
  selects := accounts.selects_concat selected
  distinct := accounts.distinct
  brought := accounts.brought_concat
  taken := accounts.taken_concat selected covered
  removes := accounts.removes_concat selected spares

theorem remove {victims : List Build}
    (selected : database.select directive = .ok (.remove victims)) :
    Accounts database (goal ++ [directive])
      { transaction with removals := database.cascade transaction.removals victims } where
  selects := accounts.selects_concat selected
  distinct := accounts.distinct
  brought := accounts.brought_concat
  taken := by
    refine accounts.taken_concat selected fun build other => ?_
    cases other
  removes := by
    intro build
    have same : (fun other => database.Condemned goal other ∨ other ∈ victims) =
        database.Condemned (goal ++ [directive]) := by
      funext other
      simp only [condemned_concat, selected, Except.ok.injEq, Selection.remove.injEq,
        exists_eq_left']
    rw [mem_cascade_iff accounts.removes, same]

theorem install (selected : database.select directive = .ok (.install build))
    (fresh : hasName transaction.installs build.name = false) {provided : List Build}
    (provides : database.provide (transaction.installs ++ [build])
      (database.demands build.name) = .ok provided) :
    Accounts database (goal ++ [directive]) { transaction with installs := provided } := by
  have last : build ∈ transaction.installs ++ [build] :=
    List.mem_append_right _ List.mem_cons_self
  have grows : ∀ other ∈ transaction.installs, other ∈ transaction.installs ++ [build] :=
    fun _ member => List.mem_append_left [build] member
  have provision : Provision database (database.Chosen (goal ++ [directive]))
      (transaction.installs ++ [build]) provided := by
    refine provide_provision (distinct_concat accounts.distinct fresh) ?_ ?_ provides
    · intro other member
      rcases List.mem_append.mp member with early | single
      · exact (accounts.brought_concat other early).mono grows fun _ chosen => chosen
      · rw [List.mem_singleton.mp single]
        exact .root last (chosen_concat.mpr (.inr selected))
    · intro demand own
      obtain ⟨dependency, required, same⟩ := List.mem_map.mp own
      exact ⟨build, last, same ▸ required⟩
  have takes : ∀ other, database.Chosen (goal ++ [directive]) other →
      hasName provided other.name = true := by
    intro other chosen
    rcases chosen_concat.mp chosen with early | late
    · obtain ⟨member, installs, sameName⟩ := hasName_iff.mp (accounts.taken other early)
      exact hasName_iff.mpr ⟨member, provision.kept member (grows member installs), sameName⟩
    · rw [selected] at late
      cases late
      exact hasName_iff.mpr ⟨build, provision.kept build last, rfl⟩
  have spares : ∀ victims, Selection.install build ≠ .remove victims :=
    fun _ other => nomatch other
  exact ⟨accounts.selects_concat selected, provision.distinct, provision.brought, takes,
    accounts.removes_concat selected spares⟩

theorem extend (selected : database.select directive = .ok selection)
    (result : database.extend transaction selection = .ok extended) :
    Accounts database (goal ++ [directive]) extended := by
  cases selection with
  | nothing remark =>
      cases result
      exact accounts.skip selected (fun _ other => nomatch other) fun _ other => nomatch other
  | remove victims =>
      cases result
      exact accounts.remove selected
  | install build =>
      rcases extend_install_cases result with ⟨taken, same⟩ | ⟨fresh, provided, provides, same⟩
      · rw [same]
        refine accounts.skip selected ?_ fun _ other => nomatch other
        intro other sameBuild
        cases sameBuild
        exact taken
      · rw [same]
        exact accounts.install selected fresh provides

end Accounts

/-- What stands at the end: an account in which no name is both installed and removed. -/
structure Resolved (database : Database) (goal : List Directive) (transaction : Transaction) :
    Prop extends Accounts database goal transaction where
  apart : ∀ build ∈ transaction.installs, hasName transaction.removals build.name = false

theorem checked_eq_ok {result : Transaction} (stands : checked transaction = .ok result) :
    result = transaction ∧
      ∀ build ∈ transaction.installs, hasName transaction.removals build.name = false := by
  unfold checked at stands
  cases clash : transaction.installs.find? fun build => hasName transaction.removals build.name with
  | some build =>
      rw [clash] at stands
      cases stands
  | none =>
      rw [clash] at stands
      cases stands
      refine ⟨rfl, fun build member => ?_⟩
      exact Bool.not_eq_true _ ▸ List.find?_eq_none.mp clash build member

/-! ### Goals as folds -/

def take (database : Database) (transaction : Transaction) (directive : Directive) :
    Except EngineError Transaction :=
  database.select directive >>= database.extend transaction

def gathered (database : Database) (transaction : Transaction) (goal : List Directive) :
    Except EngineError Transaction :=
  goal.foldlM database.take transaction

theorem gathered_append (transaction : Transaction) (early late : List Directive) :
    database.gathered transaction (early ++ late) =
      database.gathered transaction early >>= fun before => database.gathered before late :=
  List.foldlM_append

theorem gathered_cons (transaction : Transaction) (directive : Directive)
    (rest : List Directive) :
    database.gathered transaction (directive :: rest) =
      database.take transaction directive >>= fun extended => database.gathered extended rest :=
  List.foldlM_cons

theorem settle_eq_gathered (transaction : Transaction) (goal : List Directive) :
    (database.settle transaction goal).2 = database.gathered transaction goal >>= checked := by
  induction goal generalizing transaction with
  | nil => rfl
  | cons directive rest ih =>
      rw [gathered_cons, bind_assoc, take, settle]
      cases database.select directive with
      | error error => rfl
      | ok selection =>
          have passes : Except.ok selection >>= database.extend transaction =
              database.extend transaction selection := rfl
          rw [passes]
          cases extension : database.extend transaction selection with
          | error error =>
              simp only [extension]
              rfl
          | ok extended =>
              simp only [extension]
              exact ih extended

theorem resolution_eq_gathered (goal : List Directive) :
    database.resolution goal = database.gathered {} goal >>= checked :=
  settle_eq_gathered {} goal

theorem gathered_keeps (Kept : List Directive → Transaction → Prop)
    (keeps : ∀ goal directive transaction selection extended, Kept goal transaction →
      database.select directive = .ok selection →
        database.extend transaction selection = .ok extended →
          Kept (goal ++ [directive]) extended)
    (goal rest : List Directive) (kept : Kept goal transaction)
    (gathers : database.gathered transaction rest = .ok extended) :
    Kept (goal ++ rest) extended := by
  induction rest generalizing goal transaction with
  | nil =>
      cases gathers
      rw [List.append_nil]
      exact kept
  | cons directive rest ih =>
      rw [gathered_cons, bind_eq_ok_iff] at gathers
      obtain ⟨middle, taken, onward⟩ := gathers
      obtain ⟨selection, selected, extension⟩ := bind_eq_ok_iff.mp taken
      have further := ih _ (keeps _ _ _ _ _ kept selected extension) onward
      rwa [List.append_assoc, List.singleton_append] at further

/-- What holds of nothing and is preserved by each directive holds of a transaction that the
goal resolves to, and the transaction has passed the check. -/
theorem resolution_keeps (Kept : List Directive → Transaction → Prop) (start : Kept [] {})
    (keeps : ∀ goal directive transaction selection extended, Kept goal transaction →
      database.select directive = .ok selection →
        database.extend transaction selection = .ok extended →
          Kept (goal ++ [directive]) extended)
    (resolves : database.resolution goal = .ok transaction) :
    Kept goal transaction ∧
      ∀ build ∈ transaction.installs, hasName transaction.removals build.name = false := by
  rw [resolution_eq_gathered, bind_eq_ok_iff] at resolves
  obtain ⟨found, gathers, stands⟩ := resolves
  obtain ⟨same, apart⟩ := checked_eq_ok stands
  subst same
  exact ⟨gathered_keeps Kept keeps [] goal start gathers, apart⟩

theorem resolution_resolved (resolves : database.resolution goal = .ok transaction) :
    Resolved database goal transaction := by
  obtain ⟨accounts, apart⟩ := resolution_keeps (Accounts database) (Accounts.nil database)
    (fun _ _ _ _ _ accounts selected extension => accounts.extend selected extension) resolves
  exact ⟨accounts, apart⟩

namespace Resolved

variable (resolved : Resolved database goal transaction)

include resolved

theorem offered (build : Build) (member : build ∈ transaction.installs) :
    build ∈ database.available := by
  cases resolved.brought build member with
  | root _ chosen =>
      obtain ⟨directive, _, selected⟩ := chosen
      exact (best_of_select selected).1
  | required _ _ _ best => exact (mem_of_newestAvailable? best).1

theorem name_ne {added removed : Build} (comes : added ∈ transaction.installs)
    (goes : removed ∈ transaction.removals) : added.name ≠ removed.name := by
  intro sameName
  exact hasName_eq_false_iff.mp (resolved.apart added comes) removed goes sameName.symm

theorem removed_installed (build : Build) (member : build ∈ transaction.removals) :
    build ∈ database.installed :=
  ((resolved.removes build).mp member).installed

end Resolved

end Database

end PackageProvider.Memory
