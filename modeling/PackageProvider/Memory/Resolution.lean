import PackageProvider.Memory.Database

set_option autoImplicit false

/-! What a goal amounts to on a database held in memory.

Each directive first selects builds, which depends on the database alone. A build selected
for installation brings the newest builds of the names it requires with it, and a build
selected for removal takes the installed builds that require its name with it. Both
closures are searched depth first, so builds come in the order in which they are met. -/

namespace PackageProvider.Memory

inductive Selection where
  | install (build : Build)
  | remove (builds : List Build)
  | nothing (remark : String)
  deriving DecidableEq, Repr

def Selection.remarks : Selection → List String
  | nothing remark => [remark]
  | install _ | remove _ => []

structure Demand where
  dependency : String
  requiredBy : String
  deriving DecidableEq, Repr

def hasName (builds : List Build) (name : String) : Bool :=
  builds.any fun build => build.name == name

theorem length_filter_lt {Item : Type} (items : List Item) (weak strong : Item → Bool)
    (weaker : ∀ item, strong item = true → weak item = true) (lost : Item)
    (member : lost ∈ items) (held : weak lost = true) (gone : strong lost = false) :
    (items.filter strong).length < (items.filter weak).length := by
  induction items with
  | nil => cases member
  | cons first rest ih =>
      have notLonger : (rest.filter strong).length ≤ (rest.filter weak).length := by
        rw [← List.countP_eq_length_filter, ← List.countP_eq_length_filter]
        exact List.countP_mono_left fun item _ => weaker item
      rcases List.mem_cons.mp member with same | later
      · subst same
        simp only [List.filter_cons, held, gone, if_true, List.length_cons]
        simpa using Nat.lt_succ_of_le notLonger
      · have shorter := ih later
        have implied := weaker first
        by_cases kept : strong first = true
        · simp only [List.filter_cons, kept, implied kept, if_true, List.length_cons]
          omega
        · by_cases weakly : weak first = true
          · simp only [List.filter_cons, kept, weakly, if_true, List.length_cons]
            simp only [Bool.false_eq_true, if_false]
            omega
          · simp only [List.filter_cons, kept, weakly]
            simpa using shorter

namespace Database

def demands (database : Database) (name : String) : List Demand :=
  (database.requirements name).map fun dependency => ⟨dependency, name⟩

def unchosen (database : Database) (chosen : List Build) : List Build :=
  database.available.filter fun build => !hasName chosen build.name

theorem unchosen_lt (database : Database) (chosen : List Build) (name : String) (build : Build)
    (fresh : hasName chosen name = false)
    (best : database.newestAvailable? (fun build => build.name == name) = some build) :
    (database.unchosen (chosen ++ [build])).length < (database.unchosen chosen).length := by
  have found := List.mem_filter.mp (Build.mem_of_newest? best)
  have named : build.name = name := by simpa using found.2
  refine length_filter_lt database.available _ _ ?_ build found.1 ?_ ?_
  · intro other
    simp [hasName]
    grind
  · simp [named, fresh]
  · simp [hasName]

/-- Adds what the demands call for to the chosen builds. A name that is installed or
chosen needs nothing; any other needs its newest build and what that requires. -/
def provide (database : Database) (chosen : List Build) :
    List Demand → Except EngineError (List Build)
  | [] => .ok chosen
  | demand :: rest =>
      if database.hasInstalled demand.dependency then provide database chosen rest
      else if _fresh : hasName chosen demand.dependency = false then
        match _best : database.newestAvailable? fun build => build.name == demand.dependency with
        | none =>
            .error (.conflict
              ("nothing provides " ++ demand.dependency ++ " needed by " ++ demand.requiredBy))
        | some build => provide database (chosen ++ [build]) (database.demands build.name ++ rest)
      else provide database chosen rest
termination_by demands => ((database.unchosen chosen).length, demands.length)
decreasing_by
  · exact Prod.Lex.right _ (by simp)
  · exact Prod.Lex.left _ _ (database.unchosen_lt chosen _ build _fresh _best)
  · exact Prod.Lex.right _ (by simp)

def dependents (database : Database) (name : String) : List Build :=
  database.installed.filter fun build => (database.requirements build.name).contains name

def staying (database : Database) (gone : List Build) : List Build :=
  database.installed.filter fun build => !gone.contains build

theorem staying_lt (database : Database) (gone : List Build) (build : Build)
    (member : build ∈ database.installed) (stays : gone.contains build = false) :
    (database.staying (gone ++ [build])).length < (database.staying gone).length := by
  refine length_filter_lt database.installed _ _ ?_ build member ?_ ?_
  · intro other
    simp
    grind
  · simp only [stays, Bool.not_false]
  · simp

/-- Adds builds to those that go, each followed by the installed builds that require its
name. Only what is installed and stays so far can go. -/
def cascade (database : Database) (gone : List Build) : List Build → List Build
  | [] => gone
  | build :: rest =>
      if _goes : build ∈ database.installed ∧ gone.contains build = false then
        cascade database (gone ++ [build]) (database.dependents build.name ++ rest)
      else cascade database gone rest
termination_by pending => ((database.staying gone).length, pending.length)
decreasing_by
  · exact Prod.Lex.left _ _ (database.staying_lt gone build _goes.1 _goes.2)
  · exact Prod.Lex.right _ (by simp)

/-- An installation selects the newest build that the spec names, unless a build of its
name is installed and either the spec is that name alone or it is that very build. -/
def selectInstall (database : Database) (spec : String) : Except EngineError Selection :=
  match database.newestAvailable? fun build => build.isNamedBy spec with
  | none => .error (.notFound spec)
  | some best =>
      let satisfied := (database.installedNamed best.name).any fun build =>
        spec == build.name || (build.arch == best.arch && build.evr == best.evr)
      if satisfied then .ok (.nothing (spec ++ " is already installed")) else .ok (.install best)

def specName? (database : Database) (spec : String) : Option String :=
  let known := database.available ++ database.installed
  (known.find? fun build => build.isNamedBy spec).map Build.name

def selectUpgrade (database : Database) (spec : String) : Except EngineError Selection :=
  match database.specName? spec with
  | none => .error (.notFound spec)
  | some name =>
      match Build.newest? (database.installedNamed name) with
      | none => .error (.notFound (spec ++ " (not installed)"))
      | some current =>
          let better := fun build : Build =>
            build.isNamedBy spec && build.parsedEvr.newer current.parsedEvr
          match database.newestAvailable? better with
          | none => .ok (.nothing ("No upgrade available for " ++ spec))
          | some best => .ok (.install best)

def selectRemove (database : Database) (spec : String) : Except EngineError Selection :=
  match database.installed.filter fun build => build.isNamedBy spec with
  | [] => .error (.notFound spec)
  | victims => .ok (.remove victims)

def select (database : Database) (directive : Directive) : Except EngineError Selection :=
  match directive.verb with
  | .install => database.selectInstall directive.spec
  | .upgrade => database.selectUpgrade directive.spec
  | .remove => database.selectRemove directive.spec

/-- The transaction so far with a selection added. A name that is chosen already stays
with the build chosen first. -/
def extend (database : Database) (transaction : Transaction) :
    Selection → Except EngineError Transaction
  | .nothing _ => .ok transaction
  | .remove builds =>
      .ok { transaction with removals := database.cascade transaction.removals builds }
  | .install build =>
      if hasName transaction.installs build.name then .ok transaction
      else do
        let chosen := transaction.installs ++ [build]
        let installs ← database.provide chosen (database.demands build.name)
        return { transaction with installs }

end Database

def checked (transaction : Transaction) : Except EngineError Transaction :=
  match transaction.installs.find? fun build => hasName transaction.removals build.name with
  | some clash => .error (.conflict ("conflicting requests for " ++ clash.name))
  | none => .ok transaction

namespace Database

def settle (database : Database) (transaction : Transaction) :
    List Directive → List String × Except EngineError Transaction
  | [] => ([], checked transaction)
  | directive :: rest =>
      match database.select directive with
      | .error error => ([], .error error)
      | .ok selection =>
          match database.extend transaction selection with
          | .error error => (selection.remarks, .error error)
          | .ok extended =>
              let (remarks, result) := settle database extended rest
              (selection.remarks ++ remarks, result)

def resolution (database : Database) (goal : List Directive) : Except EngineError Transaction :=
  (database.settle {} goal).2

end Database

end PackageProvider.Memory
