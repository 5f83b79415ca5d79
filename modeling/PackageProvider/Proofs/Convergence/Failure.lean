import Mathlib
import PackageProvider.Proofs.Convergence.Transient
import PackageProvider.Proofs.Memory.Converging

set_option autoImplicit false

/-! Failing is safe: converging that fails leaves the machine as it was, wherever the failure
comes from, and items that cannot be planned are refused before the engine is opened. -/

namespace PackageProvider.Memory

/-- Whatever rules make calls fail, at whatever points. -/
theorem converge_error_untouched (database : Database) (journal : List JournalEntry)
    (items : List DesiredItem) (options : RunOptions) :
    (∀ error after, engine.converge items options ⟨database, journal⟩ = .error error after →
      after.world.installed = database.installed ∧
        after.world.available = database.available ∧
        after.world.requires = database.requires) ∧
    ((∃ item ∈ items, item.ensure = .held) →
      ∃ after, engine.converge items options ⟨database, journal⟩ = .error .notImplemented after ∧
        after.world = database) := by
  constructor
  · intro error after run
    have ended := Act.Ensures.of_error (converge_ensures items options) run
    cases ended with
    | refused => exact ⟨rfl, rfl, rfl⟩
    | failed same => exact ⟨same.installed, same.available, same.requires⟩
  · rintro ⟨item, member, held⟩
    cases run : engine.converge items options ⟨database, journal⟩ with
    | ok changes after =>
        have ended := Act.Ensures.of_ok (converge_ensures items options) run
        cases ended with
        | done supported => exact (supported item member held).elim
    | error error after =>
        have ended := Act.Ensures.of_error (converge_ensures items options) run
        generalize world : after.world = left at ended
        cases ended with
        | refused => exact ⟨after, rfl, world⟩
        | failed _ supported => exact (supported item member held).elim

def curlBehind : Database where
  installed := [⟨"libcurl", "8.4-1", "x86_64"⟩, ⟨"wget", "1.21-1", "x86_64"⟩]
  available := [⟨"curl", "8.5-1", "x86_64"⟩, ⟨"libcurl", "8.5-1", "x86_64"⟩]
  requires := [("curl", "libcurl")]
  failures := { download := some ⟨.network, "mirror is down", some 3⟩ }

/-- None of the three attempts at the download gets through, and an item to be held is refused. -/
theorem curlBehind_untouched :
    let items : List DesiredItem := [⟨"curl", .latest⟩, ⟨"libcurl", .latest⟩, ⟨"wget", .absent⟩]
    (∃ error after, engine.converge items {} ⟨curlBehind, []⟩ = .error error after ∧
      after.world.installed = curlBehind.installed) ∧
    ∃ after, engine.converge (⟨"jq", .held⟩ :: items) {} ⟨curlBehind, []⟩ =
        .error .notImplemented after ∧
      after.world = curlBehind := by
  intro items
  constructor
  · have only : curlBehind.OnlyDownloadsFail := by
      rintro point ⟨rule, found, -⟩
      cases point <;> first | rfl | cases found
    have resolves : curlBehind.resolution (curlBehind.goal items) =
        .ok ⟨[⟨"curl", "8.5-1", "x86_64"⟩, ⟨"libcurl", "8.5-1", "x86_64"⟩],
          [⟨"wget", "1.21-1", "x86_64"⟩]⟩ := by
      cbv
    have run := converge_weathered .standard only rfl (by decide) resolves (List.cons_ne_nil _ _) []
    cases ran : engine.converge items {} ⟨curlBehind, []⟩ with
    | ok changes after =>
        have came := congrArg Prod.fst (Act.outcome_of_ok ran)
        exact absurd (run.ok_iff.mp ⟨changes, came⟩) (by decide)
    | error error after =>
        exact ⟨error, after, rfl, ((converge_error_untouched curlBehind [] items {}).1 _ _ ran).1⟩
  · exact (converge_error_untouched curlBehind [] _ {}).2
      ⟨⟨"jq", .held⟩, List.mem_cons_self, rfl⟩

end PackageProvider.Memory
