import Mathlib.Data.List.Basic
import PackageProvider.Dnf.Engine
import PackageProvider.Proofs.Plan
import PackageProvider.Proofs.Text.Pieces
import PackageProvider.Request

set_option autoImplicit false

/-! The lines of the script for a goal. Names and versions come into it as they are, so a
newline in one of them ends the line that it stands on, and what follows is a line of its own. -/

namespace PackageProvider

/-- Whether all that a script can take from the item stands on one line. -/
def DesiredItem.FitsLine (item : DesiredItem) : Prop :=
  '\n' ∉ item.name.toList ∧
    ∀ version, item.ensure = .version version → '\n' ∉ version.toList

theorem DesiredItem.fitsLine_iff (item : DesiredItem) :
    '\n' ∉ item.spec.toList ↔ item.FitsLine := by
  obtain ⟨name, ensure⟩ := item
  unfold DesiredItem.FitsLine DesiredItem.spec
  cases ensure <;> simp

namespace Dnf

def line (directive : Directive) : List Char :=
  (directive.verb.word ++ " " ++ directive.spec).toList

def scriptLines (goal : List Directive) : List (List Char) :=
  Text.splitWhere (· == '\n') (script goal).toList

theorem newline_mem_line_iff (directive : Directive) :
    '\n' ∈ line directive ↔ '\n' ∈ directive.spec.toList := by
  obtain ⟨verb, spec⟩ := directive
  cases verb <;> simp [line, Verb.word]

theorem toList_script_cons (directive : Directive) (rest : List Directive) :
    (script (directive :: rest)).toList = line directive ++ '\n' :: (script rest).toList := by
  simp [script, line, ToString.toString]

theorem scriptLines_eq (goal : List Directive) :
    scriptLines goal =
      goal.flatMap (fun directive => Text.splitWhere (· == '\n') (line directive))
        ++ ["run".toList, []] := by
  induction goal with
  | nil => decide
  | cons directive rest ih =>
      rw [scriptLines, toList_script_cons, Text.splitWhere_append_cons (by decide),
        List.flatMap_cons, List.append_assoc, ← ih, scriptLines]

/-- The script has the lines it is meant to have exactly if no spec holds a newline. -/
theorem scriptLines_eq_iff (goal : List Directive) :
    scriptLines goal = goal.map line ++ ["run".toList, []] ↔
      ∀ directive ∈ goal, '\n' ∉ directive.spec.toList := by
  constructor
  · intro faithful directive member newline
    have piece : line directive ∈ scriptLines goal := by
      rw [faithful]
      exact List.mem_append_left _ (List.mem_map_of_mem member)
    have inLine : '\n' ∈ line directive := (newline_mem_line_iff directive).mpr newline
    cases Text.plain_of_mem_splitWhere piece '\n' inLine
  · intro single
    rw [scriptLines_eq, List.append_cancel_right_eq, List.map_eq_flatMap]
    refine List.flatMap_congr fun directive member => ?_
    refine Text.splitWhere_of_plain fun c inLine => ?_
    rw [beq_eq_false_iff_ne]
    intro same
    rw [same] at inLine
    exact single directive member ((newline_mem_line_iff directive).mp inLine)

/-- For any items and whatever the engine reports, the script for the planned goal consists of
the lines within the directives, in order, and the line that runs them. These are the planned
directives themselves exactly if each item that needs something done fits a line. -/
theorem plan_scriptLines {World Handle : Type} {engine : Engine World Handle}
    {items : List DesiredItem} {before after : Journaled (World × Handle)} {plan : Plan}
    (planned : engine.plan items before = .ok plan after) :
    let goal := plan.intents.map Intent.directive
    scriptLines goal =
        goal.flatMap (fun directive => Text.splitWhere (· == '\n') (line directive))
          ++ ["run".toList, []] ∧
      (scriptLines goal = goal.map line ++ ["run".toList, []] ↔
        ∀ item ∈ items, (Plan.intent? item (plan.baseline.get item.name)).isSome = true →
          item.FitsLine) := by
  intro goal
  refine ⟨scriptLines_eq goal, (scriptLines_eq_iff goal).trans ?_⟩
  constructor
  · intro single item member needed
    obtain ⟨intent, intends⟩ := Option.isSome_iff_exists.mp needed
    have inPlan : intent ∈ plan.intents :=
      (mem_intents_iff planned intent).mpr ⟨item, member, intends⟩
    rw [← item.fitsLine_iff, ← Plan.spec_of_intent? intends]
    exact single intent.directive (List.mem_map_of_mem inPlan)
  · intro fits directive member
    obtain ⟨intent, inPlan, same⟩ := List.mem_map.mp member
    obtain ⟨item, itemMember, intends⟩ := (mem_intents_iff planned intent).mp inPlan
    have spec : directive.spec = item.spec := by
      rw [← same]
      exact Plan.spec_of_intent? intends
    rw [spec, item.fitsLine_iff]
    exact fits item itemMember (Option.isSome_of_eq_some intends)

def emptyHost : Host Unit where
  isFile := fun _ => true
  searchPath := some ["/usr/bin"]
  launch := fun _ world => (.ok ⟨0, [], []⟩, world)

def freshHandle : Journaled (Unit × Handle) := ⟨((), { program := "/usr/bin/dnf" }), []⟩

def freshPlan (name spec : String) : Plan :=
  ⟨[⟨name, .install, spec, .absent⟩], ({} : Baseline).record name .absent⟩

theorem freshTree_scriptLines : ∃ plan after,
    (engine emptyHost {}).plan [⟨"tree", .version "2.1"⟩] freshHandle = .ok plan after ∧
      scriptLines (plan.intents.map Intent.directive) =
        (plan.intents.map Intent.directive).map line ++ ["run".toList, []] := by
  have plans : (((engine emptyHost {}).plan [⟨"tree", .version "2.1"⟩]).outcome
      freshHandle).1 = .ok (freshPlan "tree" "tree-2.1") := by
    decide +kernel
  obtain ⟨after, planned⟩ := Act.ok_of_outcome plans
  refine ⟨_, after, planned, (plan_scriptLines planned).2.mpr fun item member _ => ?_⟩
  rw [List.mem_singleton.mp member]
  exact ⟨by decide, fun version same => by cases same; decide⟩

/-- A newline in a name is not refused, and what follows it is run as a command of its own. -/
theorem plan_scriptLines_injected : ∃ request plan after,
    (readRequest SetRequest.shape
        ("\x7b\"updates\":[\x7b\"name\":\"tree\\nremove bash\","
          ++ "\"should\":\x7b\"ensure\":\"present\"\x7d\x7d]\x7d").toUTF8).toOption = some request ∧
      (engine emptyHost {}).plan request.items freshHandle = .ok plan after ∧
      scriptLines (plan.intents.map Intent.directive) =
        ["install tree".toList, "remove bash".toList, "run".toList, []] ∧
      scriptLines (plan.intents.map Intent.directive) ≠
        (plan.intents.map Intent.directive).map line ++ ["run".toList, []] := by
  have plans : (((engine emptyHost {}).plan [⟨"tree\nremove bash", .present⟩]).outcome
      freshHandle).1 = .ok (freshPlan "tree\nremove bash" "tree\nremove bash") := by
    decide +kernel
  obtain ⟨after, planned⟩ := Act.ok_of_outcome plans
  refine ⟨⟨[⟨"tree\nremove bash", .present⟩], false⟩, _, after, ?_, planned, ?_, ?_⟩
  · decide +kernel
  · decide +kernel
  · decide +kernel

end Dnf

end PackageProvider
