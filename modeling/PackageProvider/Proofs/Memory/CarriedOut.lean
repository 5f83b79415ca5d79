import Mathlib
import PackageProvider.Proofs.Memory.Applied
import PackageProvider.Proofs.Memory.Calls
import PackageProvider.Proofs.Observation

set_option autoImplicit false

/-! Applying a transaction takes away and brings in just its members, in any order of them, if a
goal resolves to it. Any transaction at all leaves at most one build for a name and an architecture
where there was at most one. -/

namespace PackageProvider.Memory

theorem sharesPlace_iff {first second : Build} :
    sharesPlace first second = true ↔ second.key = first.key := by
  rw [sharesPlace, Bool.and_eq_true, beq_iff_eq, beq_iff_eq, Build.key_eq_iff, eq_comm,
    @eq_comm _ first.arch]

def concerns (transaction : Transaction) (name : String) : Bool :=
  hasName transaction.installs name || hasName transaction.removals name

def Stays (transaction : Transaction) (build : Build) : Prop :=
  build ∉ transaction.removals ∧ ∀ added ∈ transaction.installs, added.key ≠ build.key

instance (transaction : Transaction) (build : Build) : Decidable (Stays transaction build) :=
  inferInstanceAs (Decidable (_ ∧ _))

/-- What is installed after a transaction is what stays of what was, in order, followed by what
comes. Each build that comes is there once, none that goes is there, and builds of other names are
as they were. -/
structure CarriesOut (transaction : Transaction) (before after : List Build) : Prop where
  whole : after = (before.filter fun build => Stays transaction build) ++ transaction.installs
  once : ∀ build ∈ transaction.installs, after.count build = 1
  gone : ∀ build ∈ transaction.removals, build ∉ after
  untouched : (after.filter fun build => !concerns transaction build.name) =
    before.filter fun build => !concerns transaction build.name

namespace Database

variable {database : Database} {goal : List Directive} {transaction other : Transaction}
  {before : List Build}

/-! ### Distinct names -/

theorem applied_installed_eq_stays (database : Database)
    (distinct : (transaction.installs.map Build.name).Nodup) :
    (database.applied transaction).installed =
      (database.installed.filter fun build => Stays transaction build) ++ transaction.installs := by
  rw [database.applied_installed distinct]
  congr 1
  refine List.filter_congr fun build _ => ?_
  rw [Bool.eq_iff_iff, Bool.and_eq_true, Bool.not_eq_true', List.any_eq_false, Bool.not_eq_true',
    List.contains_eq_mem, decide_eq_false_iff_not, decide_eq_true_iff, Stays, and_comm]
  simp only [sharesPlace_iff, ne_eq]

theorem count_filter_stays {build : Build} (added : build ∈ transaction.installs) :
    (before.filter fun build => Stays transaction build).count build = 0 := by
  rw [List.count_eq_zero]
  intro there
  have stays := of_decide_eq_true (List.mem_filter.mp there).2
  exact stays.2 build added rfl

theorem stays_of_not_concerned {build : Build}
    (unconcerned : (!concerns transaction build.name) = true) : Stays transaction build := by
  rw [concerns, Bool.not_or, Bool.and_eq_true, Bool.not_eq_true', Bool.not_eq_true',
    hasName_eq_false_iff, hasName_eq_false_iff] at unconcerned
  obtain ⟨notInstalled, notRemoved⟩ := unconcerned
  constructor
  · exact fun removed => notRemoved build removed rfl
  · exact fun added member same => notInstalled added member (Build.key_eq_iff.mp same).1

theorem filter_unconcerned (before : List Build) (transaction : Transaction) :
    (((before.filter fun build => Stays transaction build) ++ transaction.installs).filter
        fun build => !concerns transaction build.name) =
      before.filter fun build => !concerns transaction build.name := by
  have none : (transaction.installs.filter fun build => !concerns transaction build.name) = [] := by
    rw [List.filter_eq_nil_iff]
    intro build added unconcerned
    exact (stays_of_not_concerned unconcerned).2 build added rfl
  rw [List.filter_append, none, List.append_nil, List.filter_filter]
  refine List.filter_congr fun build _ => ?_
  cases unconcerned : !concerns transaction build.name with
  | false => rfl
  | true => rw [Bool.true_and, decide_eq_true (stays_of_not_concerned unconcerned)]

theorem carriesOut_applied (database : Database) (resolved : Resolved database goal transaction)
    (acting : Database) :
    CarriesOut transaction acting.installed (acting.applied transaction).installed := by
  rw [acting.applied_installed_eq_stays resolved.distinct]
  constructor
  · rfl
  · intro build added
    have single := List.count_eq_one_of_mem resolved.distinct.of_map added
    rw [List.count_append, count_filter_stays added, Nat.zero_add, single]
  · intro build removed there
    rcases List.mem_append.mp there with stayed | added
    · have stays := of_decide_eq_true (List.mem_filter.mp stayed).2
      exact stays.1 removed
    · exact resolved.name_ne added removed rfl
  · exact filter_unconcerned acting.installed transaction

theorem perm_applied (acting : Database) (distinct : (transaction.installs.map Build.name).Nodup)
    (installs : other.installs.Perm transaction.installs)
    (removals : other.removals.Perm transaction.removals) :
    (acting.applied other).installed.Perm (acting.applied transaction).installed := by
  have alsoDistinct : (other.installs.map Build.name).Nodup :=
    (installs.map Build.name).nodup_iff.mpr distinct
  have same (build : Build) : Stays other build ↔ Stays transaction build := by
    simp only [Stays, removals.mem_iff, installs.mem_iff]
  rw [acting.applied_installed_eq_stays distinct, acting.applied_installed_eq_stays alsoDistinct]
  simp only [same]
  exact installs.append_left _

/-! ### Any transaction -/

theorem nodup_key_replaced {installed : List Build} (distinct : (installed.map Build.key).Nodup)
    (added : Build) :
    (((installed.filter fun build => !(build.name == added.name && build.arch == added.arch))
      ++ [added]).map Build.key).Nodup := by
  rw [List.map_append, List.map_singleton, ← List.concat_eq_append]
  refine List.Nodup.concat ?_ (distinct.sublist (List.filter_sublist.map Build.key))
  intro occurs
  obtain ⟨build, member, same⟩ := List.mem_map.mp occurs
  have differs : (!(sharesPlace build added)) = true := (List.mem_filter.mp member).2
  rw [sharesPlace_iff.mpr same.symm] at differs
  cases differs

theorem nodup_key_applied (database : Database) (transaction : Transaction)
    (distinct : (database.installed.map Build.key).Nodup) :
    ((database.applied transaction).installed.map Build.key).Nodup := by
  have kept : ((transaction.removals.foldl
      (fun installed removed => installed.filter fun build => build != removed)
      database.installed).map Build.key).Nodup := by
    rw [foldl_remove]
    exact distinct.sublist (List.filter_sublist.map Build.key)
  exact List.foldlRecOn (motive := fun installed : List Build => (installed.map Build.key).Nodup)
    transaction.installs _ kept fun _ nodup added _ => nodup_key_replaced nodup added

end Database

/-! ### The call -/

theorem apply_succeeds (transaction : Transaction) {acting : Database} {actor : Handle}
    (isOpen : actor.isClosed = false) (calm : ¬ acting.failures.Armed .apply)
    (journal : List JournalEntry) :
    ∃ applied, apply transaction ⟨(acting, actor), journal⟩ = .ok () applied ∧
      applied.world.1.installed = (acting.applied transaction).installed := by
  rw [apply_apply transaction isOpen, FailureRules.trip_of_not_armed calm]
  exact ⟨_, rfl, rfl⟩

theorem installed_of_apply_ok {transaction : Transaction}
    {before after : Journaled (Database × Handle)}
    (applies : apply transaction before = .ok () after) :
    after.world.1.installed = (before.world.1.applied transaction).installed := by
  obtain ⟨⟨database, handle⟩, journal⟩ := before
  cases isOpen : handle.isClosed with
  | true =>
      rw [apply_of_closed transaction isOpen] at applies
      cases applies
  | false =>
      obtain ⟨-, same⟩ := (apply_ensures transaction isOpen).of_ok applies
      exact same.installed

/-- A transaction that a goal resolved to is carried out on that database, and on any other that
it is applied to, and so is one with its members in another order, up to the order of what is
installed. Where at most one build for a name and an architecture is installed, applying any
transaction leaves at most one. -/
theorem apply_carriesOut :
    (∀ (database : Database) (handle : Handle) (journal : List JournalEntry)
      (transaction : Transaction) (resolved : Journaled (Database × Handle)),
      resolve ⟨(database, handle), journal⟩ = .ok transaction resolved →
        resolved.world.1.installed = database.installed ∧
          ∀ (acting : Database) (actor : Handle) (notes : List JournalEntry),
            actor.isClosed = false → ¬ acting.failures.Armed .apply →
            ∃ applied, apply transaction ⟨(acting, actor), notes⟩ = .ok () applied ∧
              CarriesOut transaction acting.installed applied.world.1.installed ∧
              ∀ other : Transaction, other.installs.Perm transaction.installs →
                other.removals.Perm transaction.removals →
                ∃ reordered, apply other ⟨(acting, actor), notes⟩ = .ok () reordered ∧
                  reordered.world.1.installed.Perm applied.world.1.installed) ∧
      ∀ (transaction : Transaction) (before after : Journaled (Database × Handle)),
        apply transaction before = .ok () after →
          (before.world.1.installed.map Build.key).Nodup →
            (after.world.1.installed.map Build.key).Nodup := by
  constructor
  · intro database handle journal transaction resolved resolves
    obtain ⟨-, same, -, resolution⟩ := of_resolve_ok resolves
    refine ⟨same.installed, ?_⟩
    intro acting actor notes isOpen calm
    have accounted := Database.resolution_resolved resolution
    obtain ⟨applied, applies, installed⟩ := apply_succeeds transaction isOpen calm notes
    refine ⟨applied, applies, ?_, ?_⟩
    · rw [installed]
      exact database.carriesOut_applied accounted acting
    · intro other installs removals
      obtain ⟨reordered, appliesOther, alsoInstalled⟩ := apply_succeeds other isOpen calm notes
      refine ⟨reordered, appliesOther, ?_⟩
      rw [installed, alsoInstalled]
      exact acting.perm_applied accounted.distinct installs removals
  · intro transaction before after applies distinct
    rw [installed_of_apply_ok applies]
    exact before.world.1.nodup_key_applied transaction distinct

def curlSwap : Database where
  installed := [⟨"libcurl", "7.88-1", "x86_64"⟩, ⟨"libcurl", "7.85-1", "i686"⟩,
    ⟨"wget", "1.21-1", "x86_64"⟩, ⟨"zlib", "1.3-1", "x86_64"⟩]
  available := [⟨"libcurl", "8.5-1", "x86_64"⟩, ⟨"curl", "8.5-1", "x86_64"⟩]
  requires := [("curl", "libcurl")]

def curlSwapped : Transaction where
  installs := [⟨"libcurl", "8.5-1", "x86_64"⟩, ⟨"curl", "8.5-1", "x86_64"⟩]
  removals := [⟨"wget", "1.21-1", "x86_64"⟩]

theorem curlSwap_carriesOut :
    ∃ resolved applied reordered,
      resolve ⟨(curlSwap,
          { goal := [⟨.upgrade, "libcurl"⟩, ⟨.install, "curl"⟩, ⟨.remove, "wget"⟩] }), []⟩ =
          .ok curlSwapped resolved ∧
        apply curlSwapped resolved = .ok () applied ∧
        CarriesOut curlSwapped curlSwap.installed applied.world.1.installed ∧
        apply { curlSwapped with installs := curlSwapped.installs.reverse } resolved =
          .ok () reordered ∧
        reordered.world.1.installed.Perm applied.world.1.installed ∧
        (applied.world.1.installed.map Build.key).Nodup := by
  have resolution : curlSwap.resolution
      [⟨.upgrade, "libcurl"⟩, ⟨.install, "curl"⟩, ⟨.remove, "wget"⟩] =
        .ok ⟨[⟨"libcurl", "8.5-1", "x86_64"⟩, ⟨"curl", "8.5-1", "x86_64"⟩],
          [⟨"wget", "1.21-1", "x86_64"⟩]⟩ := by
    cbv
  have calm : ¬ curlSwap.IsArmed := Database.calm_of_no_rules rfl
  obtain ⟨resolved, resolves⟩ := resolve_succeeds
    { goal := [⟨.upgrade, "libcurl"⟩, ⟨.install, "curl"⟩, ⟨.remove, "wget"⟩] } [] calm rfl
    resolution
  obtain ⟨-, same, sameHandle, -⟩ := of_resolve_ok resolves
  obtain ⟨⟨middle, left⟩, written⟩ := resolved
  have stillOpen : left.isClosed = false := congrArg Handle.isClosed sameHandle
  have stillCalm : ¬ middle.failures.Armed .apply :=
    fun armed => calm ⟨.apply, same.rules .apply armed⟩
  obtain ⟨carried, distinct⟩ := apply_carriesOut
  obtain ⟨kept, carries⟩ := carried _ _ _ _ _ resolves
  have start : middle.installed = curlSwap.installed := kept
  obtain ⟨applied, applies, carriesOut, reorder⟩ := carries middle left written stillOpen stillCalm
  obtain ⟨reordered, appliesReordered, perm⟩ :=
    reorder { curlSwapped with installs := curlSwapped.installs.reverse }
      (List.reverse_perm curlSwapped.installs) (.refl _)
  rw [start] at carriesOut
  refine ⟨_, applied, reordered, resolves, applies, carriesOut, appliesReordered, perm, ?_⟩
  refine distinct _ _ _ applies ?_
  rw [start]
  decide

end PackageProvider.Memory
