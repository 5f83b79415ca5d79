import PackageProvider.Proofs.Memory.Converging

set_option autoImplicit false

/-! Taking stock of a database in memory. What is listed depends on the installed and the
available builds alone, and both stay as they are. -/

namespace PackageProvider.Memory

open Act (Ensures)

variable {database : Database} {handle : Handle}

namespace Database

/-- The newest installed builds with these names and the names of those that are only on
offer. Without a name everything installed is listed. -/
def inventory (database : Database) (names : List String) : Inventory :=
  let present := latestPerArch (named names database.installed)
  if names.isEmpty then { present }
  else { present, absent := Inventory.absentNames present (named names database.available) }

theorem Untouched.inventory {before after : Database} (same : before.Untouched after)
    (names : List String) : after.inventory names = before.inventory names := by
  rw [Database.inventory, same.installed, same.available, Database.inventory]

theorem mem_named_singleton {name : String} {builds : List Build} {build : Build} :
    build ∈ named [name] builds ↔ build ∈ builds ∧ build.name = name := by
  simp [named]

theorem mem_absentNames_named (name other : String) (offered : List Build) :
    other ∈ Inventory.absentNames [] (named [name] offered) ↔
      other = name ∧ hasName offered name = true := by
  rw [Inventory.mem_absentNames, hasName_iff]
  constructor
  · rintro ⟨⟨build, member, sameName⟩, -⟩
    obtain ⟨there, buildName⟩ := mem_named_singleton.mp member
    exact ⟨sameName.symm.trans buildName, build, there, buildName⟩
  · rintro ⟨same, build, there, buildName⟩
    have member := mem_named_singleton.mpr ⟨there, buildName⟩
    exact ⟨⟨build, member, buildName.trans same.symm⟩, nofun⟩

/-- However many builds have the name, it is listed once. -/
theorem absentNames_named (name : String) (offered : List Build) :
    Inventory.absentNames [] (named [name] offered) =
      if hasName offered name then [name] else [] := by
  have listed (other : String) := mem_absentNames_named name other offered
  have once := Inventory.nodup_absentNames [] (named [name] offered)
  generalize Inventory.absentNames [] (named [name] offered) = names at listed once
  split
  · rename_i known
    have all : names = List.replicate names.length name :=
      List.eq_replicate_of_mem fun other member => ((listed other).mp member).1
    have one : names.length = 1 := by
      have some := List.length_pos_of_mem ((listed name).mpr ⟨rfl, known⟩)
      rw [all, List.nodup_replicate] at once
      omega
    rw [all, one]
    rfl
  · rename_i unknown
    refine List.eq_nil_iff_forall_not_mem.mpr fun other member => ?_
    exact unknown ((listed other).mp member).2

theorem inventory_of_not_installed {name : String} (missing : database.hasInstalled name = false) :
    database.inventory [name] =
      { present := [], absent := if hasName database.available name then [name] else [] } := by
  have nothing : named [name] database.installed = [] := by
    refine List.eq_nil_iff_forall_not_mem.mpr fun build member => ?_
    obtain ⟨there, sameName⟩ := mem_named_singleton.mp member
    exact hasInstalled_eq_false_iff.mp missing build there sameName
  have latest : latestPerArch [] = [] := rfl
  rw [inventory, nothing, latest, absentNames_named]
  rfl

end Database

theorem takeStock_ensures (names : List String) (isOpen : handle.isClosed = false) :
    (engine.takeStock names).Ensures (database, handle) fun result after =>
      database.Untouched after.1 ∧ after.2 = handle ∧
        match result with
        | .ok inventory => inventory = database.inventory names
        | .error _ => database.IsArmed := by
  refine .andThen (observe_ensures names isOpen) ?_ fun _ _ kept => kept
  rintro present ⟨middle, middleHandle⟩ ⟨same, sameHandle, seen⟩
  subst sameHandle
  subst seen
  unfold Database.inventory
  cases names.isEmpty with
  | true => exact .pure ⟨same, rfl, rfl⟩
  | false =>
      have queries := @query_ensures middle middleHandle Database.available names
        (fun _ same => same.available) isOpen
      refine .andThen queries ?_ ?_
      · rintro offered after ⟨further, finalHandle, found⟩
        rw [found, same.available]
        exact .pure ⟨same.trans further, finalHandle, rfl⟩
      · rintro error after ⟨further, finalHandle, armed⟩
        exact ⟨same.trans further, finalHandle, same.isArmed armed⟩

theorem currentState_ensures (names : List String) :
    (engine.currentState names).Ensures database fun result after =>
      database.Untouched after ∧
        match result with
        | .ok inventory => inventory = database.inventory names
        | .error _ => database.IsArmed := by
  refine .inSession (openHandle_ensures.mono fun opened after kept => ?_)
  cases opened with
  | error error => exact kept
  | ok handle =>
      obtain ⟨same, fresh⟩ := kept
      rw [fresh]
      refine (takeStock_ensures names rfl).mono fun result left stocked journal => ?_
      obtain ⟨further, -, listed⟩ := stocked
      refine ⟨(same.trans further).trans (close_untouched ⟨left, journal⟩), ?_⟩
      cases result with
      | ok inventory => exact listed.trans (same.inventory names)
      | error error => exact same.isArmed listed

end PackageProvider.Memory
