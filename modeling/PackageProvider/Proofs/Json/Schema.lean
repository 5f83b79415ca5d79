import Mathlib.Logic.Relation
import PackageProvider.Proofs.Json.Shape

set_option autoImplicit false

/-! What a reader does not look at. Values may differ in entries with keys that are unknown where
they stand, and in the order of keys, and are still read as the same. -/

namespace PackageProvider.Json

inductive Schema where
  | leaf
  | list (item : Schema)
  | record (fields : List (String × Schema))

namespace Schema

def field? (schema : Schema) (key : String) : Option Schema :=
  match schema with
  | record fields => fields.lookup key
  | leaf | list _ => none

def under (schema : Schema) (key : String) : Schema := (schema.field? key).getD leaf

def item (schema : Schema) (position : Nat) : Schema :=
  match schema with
  | record fields => (fields[position]?.map (·.2)).getD leaf
  | list item => item
  | leaf => leaf

end Schema

/-- The values differ in one place: in the entries of an object whose keys are unknown there, or in
the order of two entries with different keys. -/
inductive Varies : Schema → Value → Value → Prop where
  | unknown {schema : Schema} {front old new back : List (String × Value)}
      (notOld : ∀ entry ∈ old, schema.field? entry.1 = none)
      (notNew : ∀ entry ∈ new, schema.field? entry.1 = none) :
      Varies schema (.object (front ++ old ++ back)) (.object (front ++ new ++ back))
  | swapped {schema : Schema} {front back : List (String × Value)} {one other : String × Value}
      (apart : one.1 ≠ other.1) :
      Varies schema (.object (front ++ [one, other] ++ back))
        (.object (front ++ [other, one] ++ back))
  | entry {schema : Schema} {front back : List (String × Value)} {key : String} {old new : Value}
      (inner : Varies (schema.under key) old new) :
      Varies schema (.object (front ++ [(key, old)] ++ back))
        (.object (front ++ [(key, new)] ++ back))
  | item {schema : Schema} {front back : List Value} {old new : Value}
      (inner : Varies (schema.item front.length) old new) :
      Varies schema (.array (front ++ old :: back)) (.array (front ++ new :: back))

inductive VariesAt (schema : Schema) : Option Value → Option Value → Prop where
  | same (found : Option Value) : VariesAt schema found found
  | varied {old new : Value} (inner : Varies schema old new) : VariesAt schema (some old) (some new)

theorem VariesAt.or {schema : Schema} {one other : Option Value} (at? : VariesAt schema one other)
    (front : Option Value) (back : Option Value) :
    VariesAt schema ((back.or one).or front) ((back.or other).or front) := by
  cases back with
  | some value => exact .same _
  | none =>
      cases at? with
      | same => exact .same _
      | varied inner => exact .varied inner

theorem lastOf_append (key : String) (front back : List (String × Value)) :
    lastOf key (front ++ back) = (lastOf key back).or (lastOf key front) := by
  rw [lastOf, List.reverse_append, List.lookup_append, lastOf, lastOf]

theorem lastOf_append_append {schema : Schema} {key : String} {old new : List (String × Value)}
    (differ : VariesAt schema (lastOf key old) (lastOf key new))
    (front back : List (String × Value)) :
    VariesAt schema (lastOf key (front ++ old ++ back)) (lastOf key (front ++ new ++ back)) := by
  rw [lastOf_append, lastOf_append, lastOf_append _ _ back, lastOf_append, ← Option.or_assoc,
    ← Option.or_assoc]
  exact differ.or _ _

theorem lastOf_unknown {schema : Schema} {key : String} {sub : Schema}
    (known : schema.field? key = some sub) {entries : List (String × Value)}
    (unknown : ∀ entry ∈ entries, schema.field? entry.1 = none) : lastOf key entries = none := by
  rw [lastOf, List.lookup_eq_none_iff]
  intro entry member
  rw [bne_iff_ne]
  intro same
  have none := unknown entry (List.mem_reverse.mp member)
  rw [← same, known] at none
  cases none

theorem lastOf_singleton (key : String) (entry : String × Value) :
    lastOf key [entry] = if key = entry.1 then some entry.2 else none :=
  lookup_cons_eq key entry []

theorem lastOf_swapped {one other : String × Value} (apart : one.1 ≠ other.1) (key : String) :
    lastOf key [one, other] = lastOf key [other, one] := by
  have first := lastOf_append key [one] [other]
  have second := lastOf_append key [other] [one]
  rw [lastOf_singleton, lastOf_singleton] at first second
  rw [List.singleton_append] at first second
  rw [first, second]
  by_cases here : key = one.1
  · rw [if_pos here, if_neg (here ▸ apart)]
    rfl
  · rw [if_neg here, Option.or_none, Option.none_or]

/-- Objects that differ in one place have the same under a known key, or what differs there. -/
theorem Varies.lastOf {schema : Schema} {entries : List (String × Value)} {other : Value}
    (varies : Varies schema (.object entries) other) :
    ∃ others, other = .object others ∧ ∀ key sub, schema.field? key = some sub →
      VariesAt sub (lastOf key entries) (lastOf key others) := by
  cases varies with
  | unknown notOld notNew =>
      refine ⟨_, rfl, fun key sub known => lastOf_append_append ?_ _ _⟩
      rw [lastOf_unknown known notOld, lastOf_unknown known notNew]
      exact .same none
  | swapped apart =>
      refine ⟨_, rfl, fun key sub known => lastOf_append_append ?_ _ _⟩
      rw [lastOf_swapped apart]
      exact .same _
  | @entry _ _ _ changed old new inner =>
      refine ⟨_, rfl, fun key sub known => lastOf_append_append ?_ _ _⟩
      rw [lastOf_singleton, lastOf_singleton]
      by_cases here : key = changed
      · subst here
        rw [if_pos rfl, if_pos rfl]
        rw [Schema.under, known] at inner
        exact .varied inner
      · rw [if_neg here, if_neg here]
        exact .same none

theorem Varies.object_of_steps {schema : Schema} {entries : List (String × Value)} {other : Value}
    (varies : Relation.ReflTransGen (Varies schema) (.object entries) other) :
    ∃ others, other = .object others := by
  induction varies with
  | refl => exact ⟨entries, rfl⟩
  | tail _ step ih =>
      obtain ⟨others, rfl⟩ := ih
      obtain ⟨further, same, _⟩ := step.lastOf
      exact ⟨further, same⟩

theorem getElem?_replace {front back : List Value} {old new : Value} {position : Nat}
    (apart : position ≠ front.length) :
    (front ++ old :: back)[position]? = (front ++ new :: back)[position]? := by
  rcases Nat.lt_or_gt_of_ne apart with before | behind
  · rw [List.getElem?_append_left before, List.getElem?_append_left before]
  · rw [List.getElem?_append_right behind.le, List.getElem?_append_right behind.le,
      ← Nat.succ_pred_eq_of_pos (Nat.sub_pos_of_lt behind), List.getElem?_cons_succ,
      List.getElem?_cons_succ]

theorem Varies.record {fields : List (String × Schema)} {old new : Value} {size : Nat}
    {own : Shape.Fields} (varies : Varies (.record fields) old new)
    (is : Shape.IsRecord size old own) :
    ∃ other, Shape.IsRecord size new other ∧ ∀ name position schema,
      fields.lookup name = some schema → fields[position]? = some (name, schema) →
      VariesAt schema (own.at? name position) (other.at? name position) := by
  cases is with
  | object entries =>
      obtain ⟨others, rfl, differ⟩ := varies.lastOf
      refine ⟨_, .object others, ?_⟩
      intro name position schema known _
      exact differ name schema known
  | array short =>
      cases varies with
      | @item _ front back old new inner =>
          -- A position has a value still, and only one has another value than before.
          have still : (front ++ new :: back).length ≤ size := by
            rw [List.length_append, List.length_cons] at short ⊢
            exact short
          refine ⟨_, .array still, ?_⟩
          intro name position schema _ known
          rw [Shape.Fields.at?, Shape.Fields.at?]
          by_cases here : position = front.length
          · subst here
            rw [Schema.item, known] at inner
            rw [List.getElem?_append_right le_rfl, List.getElem?_append_right le_rfl, Nat.sub_self]
            exact .varied inner
          · rw [getElem?_replace here]
            exact .same _

/-! ### Readers that do not look at it -/

namespace Shape

variable {Item Other Result : Type}

/-- What is read of a value is read of each one that differs only where the schema allows it. -/
def Stable (schema : Schema) (shape : Shape Item) : Prop :=
  ∀ old new, Varies schema old new → ∀ item,
    shape old.sorted = .ok item → shape new.sorted = .ok item

theorem Stable.of_scalar {schema : Schema} {shape : Shape Item}
    (scalar : ∀ {value : Value} {item : Item}, shape value.sorted = .ok item → value.depth = 0) :
    Stable schema shape := by
  intro old new varies item reads
  have flat := scalar reads
  cases varies <;> cases flat

theorem Stable.of_steps {schema : Schema} {shape : Shape Item} (stable : Stable schema shape)
    {old new : Value} (varies : Relation.ReflTransGen (Varies schema) old new) {item : Item}
    (reads : shape old.sorted = .ok item) : shape new.sorted = .ok item := by
  induction varies with
  | refl => exact reads
  | tail _ step ih => exact stable _ _ step _ ih

theorem Field.Reads.varied {schema : Schema} {field : Field Item}
    (stable : Stable schema field.shape) {old new : Option Value} (at? : VariesAt schema old new)
    {item : Item} (reads : field.Reads (old.map Value.sorted) item) :
    field.Reads (new.map Value.sorted) item := by
  cases at? with
  | same => exact reads
  | varied inner =>
      cases reads with
      | present reads => exact .present (stable _ _ inner _ reads)

theorem forall₂_replace {Read : Value → Item → Prop} {front back : List Value} {old new : Value}
    {items : List Item} (keeps : ∀ item, Read old item → Read new item)
    (each : List.Forall₂ Read (front ++ old :: back) items) :
    List.Forall₂ Read (front ++ new :: back) items := by
  induction front generalizing items with
  | nil =>
      cases each with
      | cons here later => exact .cons (keeps _ here) later
  | cons value front ih =>
      cases each with
      | cons here later => exact .cons here (ih later)

theorem list_eq_ok_iff {shape : Shape Item} {value : Value} {items : List Item} :
    list shape value.sorted = .ok items ↔
      ∃ values, value = .array values ∧
        List.Forall₂ (fun value item => shape value.sorted = .ok item) values items := by
  cases value with
  | array values =>
      rw [Value.sorted, list, mapM_eq_ok_iff, sortedItems_eq, List.forall₂_map_left_iff]
      constructor
      · intro each
        exact ⟨values, rfl, each⟩
      · intro found
        obtain ⟨_, same, each⟩ := found
        cases same
        exact each
  | null | bool _ | number _ | string _ | object _ =>
      constructor
      · intro reads
        cases reads
      · intro found
        obtain ⟨_, impossible, _⟩ := found
        cases impossible

theorem Stable.list {schema : Schema} {shape : Shape Item} (stable : Stable schema shape) :
    Stable (.list schema) (Shape.list shape) := by
  intro old new varies items reads
  obtain ⟨values, rfl, each⟩ := list_eq_ok_iff.mp reads
  cases varies with
  | item inner =>
      exact list_eq_ok_iff.mpr ⟨_, rfl, forall₂_replace (stable _ _ inner) each⟩

theorem Stable.oneField {schema : Schema} {type : RecordType} {field : Field Item} {name : String}
    {make : Item → Result} (named : field.name = name) (stable : Stable schema field.shape) :
    Stable (.record [(name, schema)]) (oneField type field make) := by
  intro old new varies result reads
  subst named
  obtain ⟨own, is, item, reads, made⟩ := oneField_eq_ok_iff.mp reads
  obtain ⟨other, isToo, varied⟩ := varies.record is
  have at? := varied field.name 0 schema List.lookup_cons_self rfl
  exact oneField_eq_ok_iff.mpr ⟨other, isToo, item, reads.varied stable at?, made⟩

theorem Stable.twoFields {schema schemaToo : Schema} {type : RecordType} {first : Field Item}
    {second : Field Other} {name nameToo : String} {make : Item → Other → Result}
    (named : first.name = name) (namedToo : second.name = nameToo) (apart : nameToo ≠ name)
    (stable : Stable schema first.shape) (stableToo : Stable schemaToo second.shape) :
    Stable (.record [(name, schema), (nameToo, schemaToo)])
      (twoFields type first second make) := by
  intro old new varies result reads
  subst named namedToo
  obtain ⟨own, is, item, other, reads, readsToo, made⟩ := twoFields_eq_ok_iff.mp reads
  obtain ⟨others, isToo, varied⟩ := varies.record is
  have at? := varied first.name 0 schema List.lookup_cons_self rfl
  have known : [(first.name, schema), (second.name, schemaToo)].lookup second.name =
      some schemaToo := by
    rw [List.lookup_cons, beq_eq_false_iff_ne.mpr apart]
    exact List.lookup_cons_self
  have atToo := varied second.name 1 schemaToo known rfl
  exact twoFields_eq_ok_iff.mpr
    ⟨others, isToo, item, other, reads.varied stable at?, readsToo.varied stableToo atToo, made⟩

end Shape

end PackageProvider.Json
