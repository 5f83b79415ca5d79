import PackageProvider.EngineError
import PackageProvider.Proofs.Text.Phrases

set_option autoImplicit false

/-! The category of a complaint. More text never lowers it, and neither the order of the lines nor
their letter case counts, so trouble with the network is told from everything else whatever is
printed around it. -/

namespace PackageProvider

/-- Categories by what they outrank when a complaint has phrases of several. No complaint is one
about a missing engine. -/
def ErrorCategory.rank : ErrorCategory → Nat
  | .network => 4
  | .notFound => 3
  | .conflict => 2
  | .permission => 1
  | .engineMissing | .other => 0

namespace EngineError

def phrases : List String :=
  networkPhrases ++
    (notFoundPhrases ++ (noPackageAvailable ++ (conflictPhrases ++ permissionPhrases)))

theorem isPhrase_of_mem : ∀ phrase ∈ phrases, Text.IsPhrase phrase.toList := by decide

def categoryOfLowered (lowered : List Char) : ErrorCategory :=
  if networkPhrases.any (mentions lowered) then .network
  else if notFoundPhrases.any (mentions lowered) then .notFound
  else if noPackageAvailable.all (mentions lowered) then .notFound
  else if conflictPhrases.any (mentions lowered) then .conflict
  else if permissionPhrases.any (mentions lowered) then .permission
  else .other

theorem categoryOfComplaint_eq (complaint : String) :
    categoryOfComplaint complaint = categoryOfLowered (Text.lower complaint.toList) := rfl

theorem categoryOfLowered_ne_engineMissing (lowered : List Char) :
    categoryOfLowered lowered ≠ .engineMissing := by
  unfold categoryOfLowered
  split_ifs <;> decide

theorem category_ofComplaint (complaint : String) (spec? : Option String) :
    (ofComplaint complaint spec?).category = categoryOfLowered (Text.lower complaint.toList) := by
  have possible := categoryOfLowered_ne_engineMissing (Text.lower complaint.toList)
  rw [← categoryOfComplaint_eq] at possible ⊢
  unfold ofComplaint
  cases found : categoryOfComplaint complaint with
  | engineMissing => exact (possible found).elim
  | _ => rfl

/-! ### What decides it -/

def Covers (more less : List Char) : Prop :=
  ∀ phrase ∈ phrases, phrase.toList <:+: less → phrase.toList <:+: more

theorem mentions_iff {lowered : List Char} {phrase : String} :
    mentions lowered phrase = true ↔ phrase.toList <:+: lowered :=
  Text.occurs_iff

theorem le_rank (lowered : List Char) :
    (networkPhrases.any (mentions lowered) = true → 4 ≤ (categoryOfLowered lowered).rank) ∧
      (notFoundPhrases.any (mentions lowered) = true → 3 ≤ (categoryOfLowered lowered).rank) ∧
      (noPackageAvailable.all (mentions lowered) = true → 3 ≤ (categoryOfLowered lowered).rank) ∧
      (conflictPhrases.any (mentions lowered) = true → 2 ≤ (categoryOfLowered lowered).rank) ∧
      (permissionPhrases.any (mentions lowered) = true → 1 ≤ (categoryOfLowered lowered).rank) := by
  unfold categoryOfLowered
  split_ifs <;> simp_all [ErrorCategory.rank]

theorem rank_le_of_covers {less more : List Char} (covers : Covers more less) :
    (categoryOfLowered less).rank ≤ (categoryOfLowered more).rank := by
  have any {some : List String} (among : some ⊆ phrases)
      (found : some.any (mentions less) = true) : some.any (mentions more) = true := by
    obtain ⟨phrase, member, mentioned⟩ := List.any_eq_true.mp found
    exact List.any_eq_true.mpr ⟨phrase, member,
      mentions_iff.mpr (covers phrase (among member) (mentions_iff.mp mentioned))⟩
  have all {some : List String} (among : some ⊆ phrases)
      (found : some.all (mentions less) = true) : some.all (mentions more) = true := by
    refine List.all_eq_true.mpr fun phrase member => ?_
    have mentioned := List.all_eq_true.mp found phrase member
    exact mentions_iff.mpr (covers phrase (among member) (mentions_iff.mp mentioned))
  obtain ⟨four, three, alsoThree, two, one⟩ := le_rank more
  generalize categoryOfLowered more = reached at *
  unfold categoryOfLowered
  split_ifs with network notFound noPackage conflict permission
  · exact four (any (by decide) network)
  · exact three (any (by decide) notFound)
  · exact alsoThree (all (by decide) noPackage)
  · exact two (any (by decide) conflict)
  · exact one (any (by decide) permission)
  · exact Nat.zero_le _

theorem categoryOfLowered_eq_of_covers {one other : List Char} (covers : Covers one other)
    (covered : Covers other one) : categoryOfLowered one = categoryOfLowered other := by
  have ranks : ∀ first second : ErrorCategory, first ≠ .engineMissing → second ≠ .engineMissing →
      first.rank = second.rank → first = second := by
    intro first second
    cases first <;> cases second <;> decide
  exact ranks _ _ (categoryOfLowered_ne_engineMissing one)
    (categoryOfLowered_ne_engineMissing other)
    (Nat.le_antisymm (rank_le_of_covers covered) (rank_le_of_covers covers))

/-! ### More text, other lines, other letter case -/

open Text (lines lower splitWhere)

theorem covers_lower_append (before after : List Char) :
    Covers (lower (before ++ after)) (lower before) ∧
      Covers (lower (before ++ after)) (lower after) := by
  rw [Text.lower_append]
  constructor
  · exact fun _ _ found => found.trans (List.prefix_append _ _).isInfix
  · exact fun _ _ found => found.trans (List.suffix_append _ _).isInfix

theorem covers_lower_of_lines {less more : List Char}
    (shown : ∀ line ∈ lines less, ∃ also ∈ lines more,
      also.map Char.toLower = line.map Char.toLower) :
    Covers (lower more) (lower less) := by
  intro phrase member found
  have isPhrase := isPhrase_of_mem phrase member
  obtain ⟨line, there, within⟩ := (Text.infix_lower_lines_iff isPhrase less).mp found
  obtain ⟨also, alsoThere, same⟩ := shown line there
  refine (Text.infix_lower_lines_iff isPhrase more).mpr ⟨also, alsoThere, ?_⟩
  rwa [← Text.lower_map_toLower, same, Text.lower_map_toLower]

/-- Whether two texts have the same lines in some order, as lines are read or as they stand between
newlines. -/
def SameLines (one other : List Char) : Prop :=
  (lines one).Perm (lines other) ∨
    (splitWhere (· == '\n') one).Perm (splitWhere (· == '\n') other)

theorem SameLines.symm {one other : List Char} (same : SameLines one other) :
    SameLines other one :=
  same.imp List.Perm.symm List.Perm.symm

theorem SameLines.covers {one other : List Char} (same : SameLines one other) :
    Covers (lower other) (lower one) := by
  rcases same with read | between
  · exact covers_lower_of_lines fun line member => ⟨line, read.subset member, rfl⟩
  · intro phrase member found
    have single := (isPhrase_of_mem phrase member).noNewline
    obtain ⟨piece, there, within⟩ := (Text.infix_lower_splitWhere_iff single one).mp found
    exact (Text.infix_lower_splitWhere_iff single other).mpr
      ⟨piece, between.subset there, within⟩

theorem categoryOfLowered_of_lowerCase {text lowered : List Char}
    (lowers : Text.LowerCase text lowered) :
    categoryOfLowered (lower text) = categoryOfLowered lowered :=
  categoryOfLowered_eq_of_covers
    (fun phrase member found => (lowers.infix_iff (isPhrase_of_mem phrase member)).mp found)
    (fun phrase member found => (lowers.infix_iff (isPhrase_of_mem phrase member)).mpr found)

theorem isRetryable_iff_rank (complaint : String) (spec? : Option String) :
    (ofComplaint complaint spec?).isRetryable = true ↔
      4 ≤ (ofComplaint complaint spec?).category.rank := by
  rw [isRetryable]
  cases (ofComplaint complaint spec?).category <;> decide

/-- More text never lowers the category of a complaint; the order of its lines, the case of its
ASCII letters and the way in which other letters are lowered do not count. So a complaint that is
worth another try stays so with any lines added, in any order and in any letter case. -/
theorem ofComplaint_category_stable (spec? : Option String) :
    (∀ first second : String,
      (ofComplaint first spec?).category ≠ .engineMissing ∧
        (ofComplaint first spec?).category.rank ≤
          (ofComplaint (first ++ second) spec?).category.rank ∧
        (ofComplaint second spec?).category.rank ≤
          (ofComplaint (first ++ second) spec?).category.rank) ∧
      (∀ one other : String, SameLines one.toList other.toList →
        (ofComplaint one spec?).category = (ofComplaint other spec?).category) ∧
      (∀ one other : String, one.toList.map Char.toLower = other.toList.map Char.toLower →
        (ofComplaint one spec?).category = (ofComplaint other spec?).category) ∧
      (∀ (complaint : String) (lowered : List Char), Text.LowerCase complaint.toList lowered →
        (ofComplaint complaint spec?).category = categoryOfLowered lowered) ∧
      ∀ less more : String,
        (∀ line ∈ lines less.toList, ∃ also ∈ lines more.toList,
          also.map Char.toLower = line.map Char.toLower) →
        (ofComplaint less spec?).isRetryable = true →
          (ofComplaint more spec?).isRetryable = true := by
  refine ⟨?_, ?_, ?_, ?_, ?_⟩
  · intro first second
    obtain ⟨early, late⟩ := covers_lower_append first.toList second.toList
    simp only [category_ofComplaint, String.toList_append]
    exact ⟨categoryOfLowered_ne_engineMissing _, rank_le_of_covers early, rank_le_of_covers late⟩
  · intro one other same
    rw [category_ofComplaint, category_ofComplaint]
    exact categoryOfLowered_eq_of_covers same.symm.covers same.covers
  · intro one other same
    rw [category_ofComplaint, category_ofComplaint, ← Text.lower_map_toLower, same,
      Text.lower_map_toLower]
  · intro complaint lowered lowers
    rw [category_ofComplaint]
    exact categoryOfLowered_of_lowerCase lowers
  · intro less more shown retryable
    rw [isRetryable_iff_rank, category_ofComplaint] at retryable ⊢
    exact retryable.trans (rank_le_of_covers (covers_lower_of_lines shown))

/-- What is said about a slow mirror comes first, last, in capitals, behind a letter whose lower
case depends on where it stands, and among complaints of other categories. -/
theorem slowMirror_stable :
    (ofComplaint "Timed out\nwarning: cached\n" none).category =
        (ofComplaint "warning: cached\r\nTimed out" none).category ∧
      (ofComplaint "Timed out\n" none).category = (ofComplaint "TIMED OUT\n" none).category ∧
      (ofComplaint (String.ofList ('Σ' :: " timed out".toList)) none).category =
        categoryOfLowered ('ς' :: Text.lower " timed out".toList) ∧
      (ofComplaint "Problem: held\nTIMED OUT\nPermission denied" none).isRetryable = true := by
  obtain ⟨-, reordered, recased, lowered, noisier⟩ := ofComplaint_category_stable none
  refine ⟨reordered _ _ (.inl (by decide +kernel)), recased _ _ (by decide +kernel), ?_, ?_⟩
  · refine lowered _ _ ?_
    rw [String.toList_ofList]
    have outside : ∀ d ∈ ['ς'], 128 ≤ d.toNat := List.forall_mem_singleton.mpr (by decide)
    exact .other (by decide) (by decide) (by decide) (List.cons_ne_nil 'ς' []) outside
      (Text.lowerCase_lower " timed out".toList)
  · exact noisier "Timed out" _ (by decide +kernel) (by decide +kernel)

end EngineError

end PackageProvider
