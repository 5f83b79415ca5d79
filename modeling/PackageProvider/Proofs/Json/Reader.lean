import Mathlib.Data.String.Basic
import PackageProvider.Json.Reader
import PackageProvider.Proofs.Json.Token

set_option autoImplicit false

/-! Texts that spell values. A value here has its entries as they stand in the text, in any order
and with keys that may come again; what is read has them by key, each with its last value. -/

namespace PackageProvider.Json

open Reading (depthLimit)

/-! ### Tokens and depth -/

mutual

def Value.tokens : Value → List Token
  | .null => [.atom .null]
  | .bool value => [.atom (.bool value)]
  | .number number => [.atom (.number number)]
  | .string text => [.string text]
  | .array [] => [.openArray, .closeArray]
  | .array (item :: rest) => .openArray :: (item.tokens ++ furtherItems rest)
  | .object [] => [.openObject, .closeObject]
  | .object ((key, value) :: rest) =>
      .openObject :: .string key :: .colon :: (value.tokens ++ furtherEntries rest)

def furtherItems : List Value → List Token
  | [] => [.closeArray]
  | item :: rest => .comma :: (item.tokens ++ furtherItems rest)

def furtherEntries : List (String × Value) → List Token
  | [] => [.closeObject]
  | (key, value) :: rest => .comma :: .string key :: .colon :: (value.tokens ++ furtherEntries rest)

end

mutual

def Value.depth : Value → Nat
  | .null | .bool _ | .number _ | .string _ => 0
  | .array items => depthOfItems items + 1
  | .object entries => depthOfEntries entries + 1

def depthOfItems : List Value → Nat
  | [] => 0
  | item :: rest => max item.depth (depthOfItems rest)

def depthOfEntries : List (String × Value) → Nat
  | [] => 0
  | (_, value) :: rest => max value.depth (depthOfEntries rest)

end

/-! ### Entries by key -/

mutual

def Value.sorted : Value → Value
  | .null => .null
  | .bool value => .bool value
  | .number number => .number number
  | .string text => .string text
  | .array items => .array (sortedItems items)
  | .object entries => .object (sortedEntries entries [])

def sortedItems : List Value → List Value
  | [] => []
  | item :: rest => item.sorted :: sortedItems rest

def sortedEntries : List (String × Value) → List (String × Value) → List (String × Value)
  | [], others => others
  | (key, value) :: rest, others => sortedEntries rest (insertEntry key value.sorted others)

end

theorem sortedItems_eq (items : List Value) : sortedItems items = items.map Value.sorted := by
  induction items with
  | nil => rfl
  | cons item rest ih => rw [sortedItems, ih, List.map_cons]

def lastOf (key : String) (entries : List (String × Value)) : Option Value :=
  entries.reverse.lookup key

theorem lookup_cons_eq (key : String) (entry : String × Value) (rest : List (String × Value)) :
    (entry :: rest).lookup key = if key = entry.1 then some entry.2 else rest.lookup key := by
  rw [List.lookup_cons]
  by_cases same : key = entry.1
  · rw [if_pos same, beq_iff_eq.mpr same]
  · rw [if_neg same, beq_eq_false_iff_ne.mpr same]

theorem lookup_insertEntry (key : String) (value : Value) (entries : List (String × Value))
    (other : String) : (insertEntry key value entries).lookup other =
      if other = key then some value else entries.lookup other := by
  induction entries with
  | nil => exact lookup_cons_eq other (key, value) []
  | cons entry rest ih =>
      unfold insertEntry
      split
      · exact lookup_cons_eq other (key, value) (entry :: rest)
      · split
        · next same =>
            rw [lookup_cons_eq, lookup_cons_eq, same]
            split <;> rfl
        · next apart =>
            rw [lookup_cons_eq, lookup_cons_eq, ih]
            split
            · next here => rw [if_neg fun same => apart (same.symm.trans here)]
            · rfl

theorem lookup_sortedEntries (key : String) (entries others : List (String × Value)) :
    (sortedEntries entries others).lookup key =
      ((lastOf key entries).map Value.sorted).or (others.lookup key) := by
  induction entries generalizing others with
  | nil => rfl
  | cons entry rest ih =>
      have last : lastOf key (entry :: rest) =
          (lastOf key rest).or (if key = entry.1 then some entry.2 else none) := by
        rw [lastOf, List.reverse_cons, List.lookup_append, lookup_cons_eq]
        rfl
      rw [sortedEntries, ih, lookup_insertEntry, last]
      cases lastOf key rest with
      | some value => rfl
      | none =>
          rw [Option.none_or]
          split <;> rfl

def ByKey (entries : List (String × Value)) : Prop :=
  entries.Pairwise fun one other => one.1 < other.1

theorem mem_insertEntry {key : String} {value : Value} {entries : List (String × Value)}
    {entry : String × Value} (member : entry ∈ insertEntry key value entries) :
    entry = (key, value) ∨ entry ∈ entries := by
  induction entries with
  | nil => exact .inl (List.mem_singleton.mp member)
  | cons first rest ih =>
      unfold insertEntry at member
      split at member
      · exact List.mem_cons.mp member
      · split at member
        · rcases List.mem_cons.mp member with same | later
          · exact .inl same
          · exact .inr (List.mem_cons_of_mem _ later)
        · rcases List.mem_cons.mp member with same | later
          · exact .inr (same ▸ List.mem_cons_self)
          · exact (ih later).imp_right (List.mem_cons_of_mem _)

theorem ByKey.insertEntry {entries : List (String × Value)} (byKey : ByKey entries) (key : String)
    (value : Value) : ByKey (insertEntry key value entries) := by
  induction entries with
  | nil => exact List.pairwise_singleton _ _
  | cons first rest ih =>
      obtain ⟨least, later⟩ := List.pairwise_cons.mp byKey
      unfold Json.insertEntry
      split
      · next before =>
          apply List.pairwise_cons.mpr
          constructor
          · intro entry member
            rcases List.mem_cons.mp member with rfl | behind
            · exact before
            · exact lt_trans before (least entry behind)
          · exact byKey
      · next notBefore =>
          split
          · next same =>
              subst same
              exact List.pairwise_cons.mpr ⟨least, later⟩
          · next apart =>
              apply List.pairwise_cons.mpr
              constructor
              · intro entry member
                rcases mem_insertEntry member with rfl | behind
                · exact lt_of_le_of_ne (not_lt.mp notBefore) (Ne.symm apart)
                · exact least entry behind
              · exact ih later

theorem byKey_sortedEntries (entries : List (String × Value)) {others : List (String × Value)}
    (byKey : ByKey others) : ByKey (sortedEntries entries others) := by
  induction entries generalizing others with
  | nil => exact byKey
  | cons entry rest ih => exact ih (byKey.insertEntry entry.1 entry.2.sorted)

theorem ByKey.lookup_of_mem {entries : List (String × Value)} (byKey : ByKey entries)
    {entry : String × Value} (member : entry ∈ entries) :
    entries.lookup entry.1 = some entry.2 := by
  induction entries with
  | nil => cases member
  | cons first rest ih =>
      obtain ⟨least, later⟩ := List.pairwise_cons.mp byKey
      rw [lookup_cons_eq]
      rcases List.mem_cons.mp member with rfl | behind
      · rw [if_pos rfl]
      · rw [if_neg (least entry behind).ne']
        exact ih later behind

/-! ### The machine -/

namespace Reading

theorem foldlM_of_step {reading next : Reading} {token : Token}
    (steps : step reading token = some next) (rest : List Token) :
    (token :: rest).foldlM step reading = rest.foldlM step next := by
  rw [List.foldlM_cons, steps]
  rfl

theorem foldlM_key {reading : Reading} {entries : List (String × Value)} {key : String}
    {stack : List Frame} (begins : step reading (.string key) = some (.colon entries key stack))
    (rest : List Token) :
    (.string key :: .colon :: rest).foldlM step reading =
      rest.foldlM step (.value (.object entries key :: stack)) := by
  rw [foldlM_of_step begins]
  exact foldlM_of_step rfl rest

theorem foldlM_firstItem (value : Value) (rest : List Token) (stack : List Frame) :
    (value.tokens ++ rest).foldlM step (.firstItem stack) =
      (value.tokens ++ rest).foldlM step (.value (.array [] :: stack)) := by
  -- No value begins with the bracket that would leave the array empty.
  cases value with
  | array items => cases items <;> rfl
  | object entries => cases entries <;> rfl
  | _ => rfl

mutual

/-- The tokens of a value that is not too deep take the machine to where the value is complete. -/
theorem foldlM_tokens (value : Value) (stack : List Frame)
    (shallow : stack.length + value.depth ≤ depthLimit) (rest : List Token) :
    (value.tokens ++ rest).foldlM step (.value stack) =
      rest.foldlM step (complete value.sorted stack) := by
  cases value with
  | null | bool _ | number _ | string _ => rfl
  | array items =>
      have opens : step (.value stack) .openArray = some (.firstItem stack) :=
        if_pos (by rw [Value.depth] at shallow; omega)
      cases items with
      | nil =>
          rw [Value.tokens, List.cons_append, foldlM_of_step opens]
          exact foldlM_of_step rfl rest
      | cons item others =>
          have within : (Frame.array [] :: stack).length + item.depth ≤ depthLimit := by
            rw [Value.depth, depthOfItems] at shallow
            rw [List.length_cons]
            omega
          have further : stack.length + (depthOfItems others + 1) ≤ depthLimit := by
            rw [Value.depth, depthOfItems] at shallow
            omega
          rw [Value.tokens, List.cons_append, foldlM_of_step opens, List.append_assoc,
            foldlM_firstItem, foldlM_tokens item _ within, complete,
            foldlM_furtherItems others _ _ further]
          rfl
  | object entries =>
      have opens : step (.value stack) .openObject = some (.firstKey stack) :=
        if_pos (by rw [Value.depth] at shallow; omega)
      cases entries with
      | nil =>
          rw [Value.tokens, List.cons_append, foldlM_of_step opens]
          exact foldlM_of_step rfl rest
      | cons entry others =>
          obtain ⟨key, value⟩ := entry
          -- The open object stands on the stack while its values are read, for the level that it
          -- adds to their depth.
          have within : (Frame.object [] key :: stack).length + value.depth ≤ depthLimit := by
            rw [Value.depth, depthOfEntries] at shallow
            rw [List.length_cons]
            omega
          have further : stack.length + (depthOfEntries others + 1) ≤ depthLimit := by
            rw [Value.depth, depthOfEntries] at shallow
            omega
          have begins : step (.firstKey stack) (.string key) = some (.colon [] key stack) := rfl
          rw [Value.tokens, List.cons_append, foldlM_of_step opens, List.cons_append,
            List.cons_append, foldlM_key begins, List.append_assoc, foldlM_tokens value _ within,
            complete, foldlM_furtherEntries others _ _ further]
          rfl

theorem foldlM_furtherItems (items : List Value) (earlier : List Value) (stack : List Frame)
    (shallow : stack.length + (depthOfItems items + 1) ≤ depthLimit) (rest : List Token) :
    (furtherItems items ++ rest).foldlM step (.arrayNext earlier stack) =
      rest.foldlM step (complete (.array (earlier.reverse ++ sortedItems items)) stack) := by
  cases items with
  | nil =>
      rw [sortedItems, List.append_nil]
      rfl
  | cons item others =>
      have within : (Frame.array earlier :: stack).length + item.depth ≤ depthLimit := by
        rw [depthOfItems] at shallow
        rw [List.length_cons]
        omega
      have further : stack.length + (depthOfItems others + 1) ≤ depthLimit := by
        rw [depthOfItems] at shallow
        omega
      have follows : step (.arrayNext earlier stack) .comma =
          some (.value (.array earlier :: stack)) := rfl
      rw [furtherItems, List.cons_append, foldlM_of_step follows, List.append_assoc,
        foldlM_tokens item _ within, complete, foldlM_furtherItems others _ _ further,
        List.reverse_cons, List.append_assoc, sortedItems]
      rfl

theorem foldlM_furtherEntries (entries earlier : List (String × Value)) (stack : List Frame)
    (shallow : stack.length + (depthOfEntries entries + 1) ≤ depthLimit) (rest : List Token) :
    (furtherEntries entries ++ rest).foldlM step (.objectNext earlier stack) =
      rest.foldlM step (complete (.object (sortedEntries entries earlier)) stack) := by
  cases entries with
  | nil => rfl
  | cons entry others =>
      obtain ⟨key, value⟩ := entry
      have within : (Frame.object earlier key :: stack).length + value.depth ≤ depthLimit := by
        rw [depthOfEntries] at shallow
        rw [List.length_cons]
        omega
      have further : stack.length + (depthOfEntries others + 1) ≤ depthLimit := by
        rw [depthOfEntries] at shallow
        omega
      have follows : step (.objectNext earlier stack) .comma = some (.key earlier stack) := rfl
      have begins : step (.key earlier stack) (.string key) = some (.colon earlier key stack) := rfl
      rw [furtherEntries, List.cons_append, foldlM_of_step follows, List.cons_append,
        List.cons_append, foldlM_key begins, List.append_assoc, foldlM_tokens value _ within,
        complete, foldlM_furtherEntries others _ _ further, sortedEntries]

end

end Reading

/-- The text is one of those that spell the value, and nests no deeper than can be read. -/
structure Writes (text : String) (value : Value) : Prop where
  spells : Token.Spells text.toList value.tokens
  shallow : value.depth ≤ depthLimit

theorem Writes.parse_eq {text : String} {value : Value} (writes : Writes text value) :
    parse text.toList = some value.sorted := by
  have within : ([] : List Frame).length + value.depth ≤ depthLimit := by
    rw [List.length_nil, Nat.zero_add]
    exact writes.shallow
  have run := Reading.foldlM_tokens value [] within []
  rw [List.append_nil] at run
  rw [parse, Token.tokens_spelled writes.spells, Option.bind_some, ofTokens, run]
  rfl

end PackageProvider.Json
