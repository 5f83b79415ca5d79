import Mathlib
import PackageProvider.Proofs.Memory.Accounts
import PackageProvider.Proofs.Memory.Calls

set_option autoImplicit false

/-! What becomes of a request to install. A transaction has one build of a name, and it is the
first that is asked for or required: a later request for the name adds nothing, and whether it
wants that very build is not looked at. -/

namespace PackageProvider.Memory

structure Grows (before after : Transaction) : Prop where
  installs : ∀ build ∈ before.installs, build ∈ after.installs
  removals : ∀ build ∈ before.removals, build ∈ after.removals

namespace Grows

variable {first second third : Transaction}

theorem refl (transaction : Transaction) : Grows transaction transaction :=
  ⟨fun _ member => member, fun _ member => member⟩

theorem trans (early : Grows first second) (late : Grows second third) : Grows first third where
  installs := fun build member => late.installs build (early.installs build member)
  removals := fun build member => late.removals build (early.removals build member)

theorem checked_eq_ok {result : Transaction} (grows : Grows first second)
    (stands : checked second = .ok result) : checked first = .ok first := by
  have apart := (Database.checked_eq_ok stands).2
  have noClash : (first.installs.find? fun build => hasName first.removals build.name) = none := by
    rw [List.find?_eq_none]
    intro build member clashes
    obtain ⟨removed, goes, sameName⟩ := hasName_iff.mp clashes
    have free := hasName_eq_false_iff.mp (apart build (grows.installs build member))
    exact free removed (grows.removals removed goes) sameName
  rw [checked, noClash]

end Grows

namespace Database

variable {database : Database} {transaction extended before : Transaction}
  {directive : Directive} {selection : Selection} {build : Build} {goal early late : List Directive}
  {spec : String}

/-! ### What is taken up stays -/

theorem subset_provide {chosen provided : List Build} {demands : List Demand}
    (result : database.provide chosen demands = .ok provided) :
    ∀ build ∈ chosen, build ∈ provided := by
  fun_induction database.provide chosen demands with
  | case1 chosen =>
      cases result
      exact fun _ member => member
  | case2 chosen demand rest _ ih => exact ih result
  | case3 => cases result
  | case4 chosen demand rest _ _ best _ ih =>
      exact fun build member => ih result build (List.mem_append_left [best] member)
  | case5 chosen demand rest _ _ ih => exact ih result

theorem extend_grows (result : database.extend transaction selection = .ok extended) :
    Grows transaction extended := by
  obtain same | ⟨victims, -, same⟩ | ⟨best, provided, -, -, provides, same⟩ := extend_cases result
  · rw [same]
    exact .refl transaction
  · rw [same]
    exact ⟨fun _ member => member, subset_cascade transaction.removals victims⟩
  · rw [same]
    refine ⟨fun build member => ?_, fun _ member => member⟩
    exact subset_provide provides build (List.mem_append_left [best] member)

theorem gathered_grows (gathers : database.gathered transaction goal = .ok extended) :
    Grows transaction extended :=
  gathered_keeps (fun _ later => Grows transaction later)
    (fun _ _ _ _ _ grows _ extension => grows.trans (extend_grows extension)) [] goal
    (.refl transaction) gathers

theorem resolution_split (early late : List Directive)
    (resolves : database.resolution (early ++ late) = .ok transaction) :
    ∃ before, database.resolution early = .ok before ∧
      database.gathered {} early = .ok before ∧
      database.gathered before late = .ok transaction := by
  rw [resolution_eq_gathered, bind_eq_ok_iff] at resolves
  obtain ⟨found, gathers, stands⟩ := resolves
  have same := (checked_eq_ok stands).1
  subst same
  rw [gathered_append, bind_eq_ok_iff] at gathers
  obtain ⟨before, start, onward⟩ := gathers
  refine ⟨before, ?_, start, onward⟩
  rw [resolution_eq_gathered, bind_eq_ok_iff]
  exact ⟨before, start, (gathered_grows onward).checked_eq_ok stands⟩

theorem mem_extend_install (fresh : hasName transaction.installs build.name = false)
    (result : database.extend transaction (.install build) = .ok extended) :
    build ∈ extended.installs := by
  rcases extend_install_cases result with ⟨taken, -⟩ | ⟨-, provided, provides, same⟩
  · rw [fresh] at taken
    cases taken
  · rw [same]
    exact subset_provide provides build (List.mem_append_right _ List.mem_cons_self)

/-! ### Requests to install -/

theorem resolution_of_taken (gathers : database.gathered {} early = .ok before)
    (selected : database.select directive = .ok (.install build))
    (taken : hasName before.installs build.name = true) (late : List Directive) :
    database.resolution (early ++ directive :: late) = database.resolution (early ++ late) := by
  have skips : database.take before directive = .ok before := by
    refine bind_eq_ok_iff.mpr ⟨_, selected, ?_⟩
    rw [extend, if_pos taken]
  simp only [resolution_eq_gathered, gathered_append, gathers, gathered_cons, skips, bind,
    Except.bind]

/-- What becomes of a request: an installed build meets it, or the newest build that it names
comes, or another build of that name was there before and the request makes no difference. -/
theorem install_request_cases
    (resolves : database.resolution (early ++ ⟨.install, spec⟩ :: late) = .ok transaction) :
    (∃ build ∈ database.installed, build.isNamedBy spec = true) ∨
      ∃ before best, database.resolution early = .ok before ∧
        database.newestAvailable? (fun build => build.isNamedBy spec) = some best ∧
          (best ∈ transaction.installs ∨
            (∃ kept ∈ before.installs, kept ∈ transaction.installs ∧ kept.name = best.name) ∧
              database.resolution (early ++ late) = .ok transaction) := by
  obtain ⟨before, resolvesEarly, gathers, onward⟩ := resolution_split _ _ resolves
  rw [gathered_cons, bind_eq_ok_iff] at onward
  obtain ⟨middle, takes, later⟩ := onward
  obtain ⟨selection, selected, extension⟩ := bind_eq_ok_iff.mp takes
  obtain ⟨best, found, same | ⟨-, there⟩⟩ := selectInstall_cases selected
  · subst same
    refine .inr ⟨before, best, resolvesEarly, found, ?_⟩
    cases taken : hasName before.installs best.name with
    | false =>
        exact .inl ((gathered_grows later).installs best (mem_extend_install taken extension))
    | true =>
        obtain ⟨kept, member, sameName⟩ := hasName_iff.mp taken
        refine .inr ⟨⟨kept, member, ?_, sameName⟩, ?_⟩
        · exact ((extend_grows extension).trans (gathered_grows later)).installs kept member
        · rw [← resolution_of_taken gathers selected taken]
          exact resolves
  · obtain ⟨build, known, named⟩ := there
    exact .inl ⟨build, (mem_installedNamed.mp known).1, named⟩

/-- Whether a build that the spec names is installed or comes with the transaction. -/
def Meets (database : Database) (transaction : Transaction) (spec : String) : Prop :=
  ∃ build ∈ database.installed ++ transaction.installs, build.isNamedBy spec = true

instance (database : Database) (transaction : Transaction) (spec : String) :
    Decidable (database.Meets transaction spec) :=
  inferInstanceAs (Decidable (∃ build ∈ database.installed ++ transaction.installs,
    build.isNamedBy spec = true))

end Database

/-- When a handle's goal is resolved, each of its requests to install is met, unless what the
goal asks for before it brings in another build of the name of the newest build that the
request names. Then the goal resolves as if the request were not there. -/
theorem resolve_install_request (database : Database) (handle : Handle)
    (journal : List JournalEntry) (early late : List Directive) {spec : String}
    {transaction : Transaction} {resolved : Journaled (Database × Handle)}
    (asked : handle.goal = early ++ ⟨.install, spec⟩ :: late)
    (resolves : resolve ⟨(database, handle), journal⟩ = .ok transaction resolved) :
    database.Meets transaction spec ∨
      ∃ before best kept, database.resolution early = .ok before ∧
        database.newestAvailable? (fun build => build.isNamedBy spec) = some best ∧
          kept ∈ before.installs ∧ kept ∈ transaction.installs ∧ kept.name = best.name ∧
            kept.isNamedBy spec = false ∧
              database.resolution (early ++ late) = .ok transaction := by
  obtain ⟨-, -, -, resolution⟩ := of_resolve_ok resolves
  rw [asked] at resolution
  rcases Database.install_request_cases resolution with
    ⟨build, there, named⟩ | ⟨before, best, resolvesEarly, found, comes | ⟨keeps, skipped⟩⟩
  · exact .inl ⟨build, List.mem_append_left _ there, named⟩
  · have named := (Database.mem_of_newestAvailable? found).2
    exact .inl ⟨best, List.mem_append_right _ comes, named⟩
  · obtain ⟨kept, early, member, sameName⟩ := keeps
    cases named : kept.isNamedBy spec with
    | true => exact .inl ⟨kept, List.mem_append_right _ member, named⟩
    | false =>
        exact .inr ⟨before, best, kept, resolvesEarly, found, early, member, sameName, named,
          skipped⟩

def libcurlReleases : Database where
  available := [⟨"libcurl", "8.4-1", "x86_64"⟩, ⟨"libcurl", "8.5-1", "x86_64"⟩,
    ⟨"curl", "8.5-1", "x86_64"⟩]
  requires := [("curl", "libcurl")]

theorem libcurlReleases_calm : ¬ libcurlReleases.IsArmed := Database.calm_of_no_rules rfl

theorem libcurlReleases_install_request :
    ∃ transaction resolved,
      resolve ⟨(libcurlReleases, { goal := [⟨.install, "libcurl-8.4"⟩, ⟨.install, "curl"⟩] }), []⟩ =
          .ok transaction resolved ∧
        libcurlReleases.Meets transaction "libcurl-8.4" := by
  have resolution : libcurlReleases.resolution [⟨.install, "libcurl-8.4"⟩, ⟨.install, "curl"⟩] =
      .ok ⟨[⟨"libcurl", "8.4-1", "x86_64"⟩, ⟨"curl", "8.5-1", "x86_64"⟩], []⟩ := by
    cbv
  obtain ⟨resolved, resolves⟩ := resolve_succeeds
    { goal := [⟨.install, "libcurl-8.4"⟩, ⟨.install, "curl"⟩] } []
    libcurlReleases_calm rfl resolution
  refine ⟨_, resolved, resolves, ?_⟩
  refine (resolve_install_request libcurlReleases _ [] [] _ rfl resolves).resolve_right ?_
  -- Nothing comes before the request.
  rintro ⟨before, best, kept, nothing, -, impossible, -⟩
  cases nothing
  cases impossible

/-- Of two requests for different builds of one name, the second is left without an answer. -/
theorem resolve_install_request_dropped :
    ¬ ∀ (database : Database) (handle : Handle) (journal : List JournalEntry)
      (transaction : Transaction) (resolved : Journaled (Database × Handle)) (spec : String),
      resolve ⟨(database, handle), journal⟩ = .ok transaction resolved →
        ⟨.install, spec⟩ ∈ handle.goal → database.Meets transaction spec := by
  intro always
  have resolution : libcurlReleases.resolution
      [⟨.install, "libcurl-8.4"⟩, ⟨.install, "libcurl-8.5"⟩] =
        .ok ⟨[⟨"libcurl", "8.4-1", "x86_64"⟩], []⟩ := by
    cbv
  obtain ⟨resolved, resolves⟩ := resolve_succeeds
    { goal := [⟨.install, "libcurl-8.4"⟩, ⟨.install, "libcurl-8.5"⟩] } []
    libcurlReleases_calm rfl resolution
  have met := always libcurlReleases _ [] _ resolved "libcurl-8.5" resolves (by decide)
  revert met
  decide

end PackageProvider.Memory
