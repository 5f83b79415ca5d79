set_option autoImplicit false

/-! Walking depth first. A step takes up one item: it fails, passes the item by, or enters it,
which gives a new state and the items below. The walk goes through all that is below an item
before it goes on behind it. It comes to an end where each entry leaves less to enter, and then it
comes to what a search with one list of waiting items comes to, on which the items below an item
are put in front. -/

namespace PackageProvider

variable {State Item Error : Type}
  {step : State → Item → Except Error (Option (State × List Item))}

/-- A walk and what it comes to: the calls that a recursion makes, which goes into itself below
an item. As there is a walk only where all of them return, having one is to come to an end. -/
inductive DepthFirst (step : State → Item → Except Error (Option (State × List Item))) :
    State → List Item → Except Error State → Prop where
  | done (state : State) : DepthFirst step state [] (.ok state)
  | fail {state : State} {item : Item} {rest : List Item} {error : Error}
      (fails : step state item = .error error) :
      DepthFirst step state (item :: rest) (.error error)
  | pass {state : State} {item : Item} {rest : List Item} {result : Except Error State}
      (passes : step state item = .ok none) (onward : DepthFirst step state rest result) :
      DepthFirst step state (item :: rest) result
  | failBelow {state inner : State} {item : Item} {below rest : List Item} {error : Error}
      (enters : step state item = .ok (some (inner, below)))
      (within : DepthFirst step inner below (.error error)) :
      DepthFirst step state (item :: rest) (.error error)
  | enter {state inner left : State} {item : Item} {below rest : List Item}
      {result : Except Error State} (enters : step state item = .ok (some (inner, below)))
      (within : DepthFirst step inner below (.ok left))
      (onward : DepthFirst step left rest result) :
      DepthFirst step state (item :: rest) result

def Shrinks (step : State → Item → Except Error (Option (State × List Item)))
    (Fit : Item → Prop) (left : State → Nat) : Prop :=
  ∀ state item inner below, Fit item → step state item = .ok (some (inner, below)) →
    left inner < left state ∧ ∀ other ∈ below, Fit other

/-- Whether a search keeps one list of waiting items and puts those below an item in front. -/
structure IsSearch (step : State → Item → Except Error (Option (State × List Item)))
    (Fit : Item → Prop) (search : State → List Item → Except Error State) : Prop where
  search_nil (state : State) : search state [] = .ok state
  search_cons (state : State) (item : Item) (rest : List Item) (fit : Fit item) :
    search state (item :: rest) = step state item >>= fun entered =>
      match entered with
      | none => search state rest
      | some (inner, below) => search inner (below ++ rest)

namespace DepthFirst

variable {Fit : Item → Prop} {left : State → Nat}
  {search : State → List Item → Except Error State} {state final : State} {items : List Item}
  {result : Except Error State}

theorem left_le (shrinks : Shrinks step Fit left) (walks : DepthFirst step state items result)
    (fit : ∀ item ∈ items, Fit item) (passes : result = .ok final) : left final ≤ left state := by
  induction walks generalizing final with
  | done =>
      cases passes
      exact Nat.le_refl _
  | fail => cases passes
  | pass _ _ ih => exact ih (List.forall_mem_cons.mp fit).2 passes
  | failBelow => cases passes
  | enter enters _ _ ihWithin ihOnward =>
      obtain ⟨fitItem, fitRest⟩ := List.forall_mem_cons.mp fit
      obtain ⟨less, fitBelow⟩ := shrinks _ _ _ _ fitItem enters
      have within := ihWithin fitBelow rfl
      have onward := ihOnward fitRest passes
      omega

theorem exists_of_shrinks (shrinks : Shrinks step Fit left) (state : State) (items : List Item)
    (fit : ∀ item ∈ items, Fit item) : ∃ result, DepthFirst step state items result := by
  -- The induction is on what is left to enter, and in one state on the items.
  induction measured : left state using Nat.strongRecOn generalizing state items with
  | ind amount ihLess =>
      induction items with
      | nil => exact ⟨_, .done state⟩
      | cons item rest ih =>
          obtain ⟨fitItem, fitRest⟩ := List.forall_mem_cons.mp fit
          cases stepped : step state item with
          | error error => exact ⟨_, .fail stepped⟩
          | ok entered =>
              cases entered with
              | none =>
                  obtain ⟨result, onward⟩ := ih fitRest
                  exact ⟨result, .pass stepped onward⟩
              | some entry =>
                  obtain ⟨inner, below⟩ := entry
                  obtain ⟨less, fitBelow⟩ := shrinks _ _ _ _ fitItem stepped
                  obtain ⟨met, within⟩ := ihLess _ (measured ▸ less) inner below fitBelow rfl
                  cases met with
                  | error error => exact ⟨_, .failBelow stepped within⟩
                  | ok middle =>
                      have noMore := left_le shrinks within fitBelow rfl
                      have fewer : left middle < amount := by omega
                      obtain ⟨result, onward⟩ := ihLess _ fewer middle rest fitRest rfl
                      exact ⟨result, .enter stepped within onward⟩

theorem search_append (searches : IsSearch step Fit search) (shrinks : Shrinks step Fit left)
    (walks : DepthFirst step state items result) (fit : ∀ item ∈ items, Fit item)
    (behind : List Item) :
    search state (items ++ behind) = result >>= fun reached => search reached behind := by
  -- The items behind vary: below an entered item the rest of the walk is behind as well.
  induction walks generalizing behind with
  | done => rfl
  | fail fails =>
      obtain ⟨fitItem, -⟩ := List.forall_mem_cons.mp fit
      rw [List.cons_append, searches.search_cons _ _ _ fitItem, fails]
      rfl
  | pass passes _ ih =>
      obtain ⟨fitItem, fitRest⟩ := List.forall_mem_cons.mp fit
      rw [List.cons_append, searches.search_cons _ _ _ fitItem, passes]
      exact ih fitRest behind
  | failBelow enters _ ih =>
      obtain ⟨fitItem, -⟩ := List.forall_mem_cons.mp fit
      obtain ⟨-, fitBelow⟩ := shrinks _ _ _ _ fitItem enters
      rw [List.cons_append, searches.search_cons _ _ _ fitItem, enters]
      exact ih fitBelow _
  | enter enters _ _ ihWithin ihOnward =>
      obtain ⟨fitItem, fitRest⟩ := List.forall_mem_cons.mp fit
      obtain ⟨-, fitBelow⟩ := shrinks _ _ _ _ fitItem enters
      rw [List.cons_append, searches.search_cons _ _ _ fitItem, enters]
      exact (ihWithin fitBelow _).trans (ihOnward fitRest behind)

theorem eq_search (searches : IsSearch step Fit search) (shrinks : Shrinks step Fit left)
    (walks : DepthFirst step state items result) (fit : ∀ item ∈ items, Fit item) :
    result = search state items := by
  have reaches := search_append searches shrinks walks fit []
  rw [List.append_nil] at reaches
  rw [reaches]
  cases result with
  | error error => rfl
  | ok reached => exact (searches.search_nil reached).symm

/-- Every walk through fit items comes to an end, and to the end of the search. -/
theorem iff_search (searches : IsSearch step Fit search) (shrinks : Shrinks step Fit left)
    (fit : ∀ item ∈ items, Fit item) :
    DepthFirst step state items result ↔ result = search state items := by
  constructor
  · intro walks
    exact eq_search searches shrinks walks fit
  · intro same
    obtain ⟨reached, walks⟩ := exists_of_shrinks shrinks state items fit
    rw [same, ← eq_search searches shrinks walks fit]
    exact walks

end DepthFirst

end PackageProvider
