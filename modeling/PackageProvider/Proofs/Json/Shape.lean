import PackageProvider.Json.Shape
import PackageProvider.Proofs.Json.Reader
import PackageProvider.Proofs.Results

set_option autoImplicit false

/-! Reading records. A record has a place for each of its fields, whether it is given as an object
or as an array, and what else stands in it is of no account. -/

namespace PackageProvider.Json

namespace Shape

variable {Item Other Result : Type}

/-! ### Fields -/

inductive Field.Reads (field : Field Item) : Option Value → Item → Prop where
  | present {value : Value} {item : Item} (reads : field.shape value = .ok item) :
      Field.Reads field (some value) item
  | missing {item : Item} (stands : field.default? = some item) : Field.Reads field none item

theorem find?_eq_lookup (entries : List (String × Value)) (name : String) :
    entries.find? (fun entry => entry.1 == name) = (entries.lookup name).map (name, ·) := by
  induction entries with
  | nil => rfl
  | cons entry rest ih =>
      rw [List.find?_cons, lookup_cons_eq, ih]
      by_cases same : name = entry.1
      · rw [if_pos same, same, beq_self_eq_true]
        rfl
      · rw [if_neg same, beq_eq_false_iff_ne.mpr (Ne.symm same)]

theorem Field.reads_iff (field : Field Item) (found : Option Value) (item : Item)
    (error : ShapeError) :
    field.Reads found item ↔
      (match found, field.default? with
        | some value, _ => field.shape value
        | none, some item => .ok item
        | none, none => .error error) = .ok item := by
  cases found with
  | some value => exact ⟨fun | .present reads => reads, .present⟩
  | none =>
      constructor
      · intro | .missing stands => rw [stands]
      · intro same
        split at same
        · next impossible => cases impossible
        · next stands =>
            cases same
            exact .missing stands
        · cases same

theorem get_byName_eq_ok_iff {field : Field Item} {entries : List (String × Value)}
    {type : RecordType} {position : Nat} {item : Item} :
    (Fields.byName entries).get type position field = .ok item ↔
      field.Reads (entries.lookup field.name) item := by
  rw [field.reads_iff _ _ (.missingField field.name), Fields.get, find?_eq_lookup]
  cases entries.lookup field.name with
  | some value => rfl
  | none => cases field.default? <;> rfl

theorem get_byPosition_eq_ok_iff {field : Field Item} {items : List Value}
    {type : RecordType} {position : Nat} {item : Item} :
    (Fields.byPosition items).get type position field = .ok item ↔
      field.Reads items[position]? item := by
  rw [field.reads_iff _ _ (.wrongLength position type.expectedSize)]
  rfl

theorem openRecord_object_eq_ok_iff {type : RecordType}
    {checks : List (String × (Value → Except ShapeError Unit))}
    {entries : List (String × Value)} {fields : Fields} :
    openRecord type checks (.object entries) = .ok fields ↔
      (∀ entry ∈ entries, ∀ check,
        checks.find? (fun check => check.1 == entry.1) = some check → check.2 entry.2 = .ok ()) ∧
        fields = .byName entries := by
  rw [openRecord, bind_eq_ok_iff]
  constructor
  · intro ⟨_, checked, same⟩
    cases same
    refine ⟨?_, rfl⟩
    intro entry member check found
    have passes := forM_eq_ok_iff.mp checked entry member
    simp only [found] at passes
    exact passes
  · intro ⟨checked, same⟩
    refine ⟨(), ?_, by rw [same]; rfl⟩
    rw [forM_eq_ok_iff]
    intro entry member
    cases found : checks.find? (fun check => check.1 == entry.1) with
    | none => simp only [found]
    | some check =>
        simp only [found]
        exact checked entry member check found

/-! ### Records -/

inductive IsRecord (size : Nat) : Value → Fields → Prop where
  | object (entries : List (String × Value)) : IsRecord size (.object entries) (.byName entries)
  | array {items : List Value} (short : items.length ≤ size) :
      IsRecord size (.array items) (.byPosition items)

def Fields.at? (fields : Fields) (name : String) (position : Nat) : Option Value :=
  match fields with
  | .byName entries => lastOf name entries
  | .byPosition items => items[position]?

def Fields.sorted : Fields → Fields
  | .byName entries => .byName (sortedEntries entries [])
  | .byPosition items => .byPosition (sortedItems items)

theorem lookup_sorted (entries : List (String × Value)) (name : String) :
    (sortedEntries entries []).lookup name = (lastOf name entries).map Value.sorted := by
  rw [lookup_sortedEntries, List.lookup_nil, Option.or_none]

theorem get_sorted_eq_ok_iff {fields : Fields} {type : RecordType} {position : Nat}
    {field : Field Item} {item : Item} :
    fields.sorted.get type position field = .ok item ↔
      field.Reads ((fields.at? field.name position).map Value.sorted) item := by
  cases fields with
  | byName entries => rw [Fields.sorted, get_byName_eq_ok_iff, lookup_sorted, Fields.at?]
  | byPosition items =>
      rw [Fields.sorted, get_byPosition_eq_ok_iff, sortedItems_eq, List.getElem?_map, Fields.at?]

theorem Field.reads_sorted_iff (field : Field Item) (found : Option Value) (item : Item) :
    field.Reads (found.map Value.sorted) item ↔
      (∃ value, found = some value ∧ field.shape value.sorted = .ok item) ∨
        found = none ∧ field.default? = some item := by
  cases found with
  | some value =>
      constructor
      · intro | .present reads => exact .inl ⟨value, rfl, reads⟩
      · intro reads
        rcases reads with ⟨_, same, reads⟩ | ⟨missing, _⟩
        · cases same
          exact .present reads
        · cases missing
  | none =>
      constructor
      · intro | .missing stands => exact .inr ⟨rfl, stands⟩
      · intro reads
        rcases reads with ⟨_, impossible, _⟩ | ⟨_, stands⟩
        · cases impossible
        · exact .missing stands

def Fields.Passes (checks : List (String × (Value → Except ShapeError Unit))) : Fields → Prop
  | .byName entries => ∀ entry ∈ entries, ∀ check,
      checks.find? (fun check => check.1 == entry.1) = some check → check.2 entry.2 = .ok ()
  | .byPosition _ => True

theorem requireNoMore_byPosition_eq_ok_iff {type : RecordType} {items : List Value} :
    (Fields.byPosition items).sorted.requireNoMore type = .ok () ↔ items.length ≤ type.size := by
  rw [Fields.sorted, Fields.requireNoMore, sortedItems_eq, List.length_map]
  split
  · next longer =>
      constructor
      · intro accepted
        cases accepted
      · intro short
        omega
  · next short => exact iff_of_true rfl (by omega)

theorem opens_iff {type : RecordType} {checks : List (String × (Value → Except ShapeError Unit))}
    {value : Value} {fields : Fields} :
    (openRecord type checks value.sorted = .ok fields ∧ fields.requireNoMore type = .ok ()) ↔
      ∃ own, IsRecord type.size value own ∧ own.sorted.Passes checks ∧ fields = own.sorted := by
  cases value with
  | object entries =>
      rw [Value.sorted, openRecord_object_eq_ok_iff]
      constructor
      · intro opens
        obtain ⟨⟨passes, same⟩, _⟩ := opens
        exact ⟨_, .object entries, passes, same⟩
      · intro record
        obtain ⟨_, is, passes, same⟩ := record
        cases is
        exact ⟨⟨passes, same⟩, by rw [same]; rfl⟩
  | array items =>
      constructor
      · intro opens
        obtain ⟨opened, noMore⟩ := opens
        cases opened
        exact ⟨_, .array (requireNoMore_byPosition_eq_ok_iff.mp noMore), trivial, rfl⟩
      · intro record
        obtain ⟨_, is, _, same⟩ := record
        cases is with
        | array short =>
            rw [same]
            exact ⟨rfl, requireNoMore_byPosition_eq_ok_iff.mpr short⟩
  | null | bool _ | number _ | string _ =>
      constructor
      · intro opens
        cases opens.1
      · intro record
        obtain ⟨_, impossible, _⟩ := record
        cases impossible

theorem Fields.passes_sorted {checks : List (String × (Value → Except ShapeError Unit))}
    {fields : Fields} (each : ∀ check ∈ checks, ∃ position, ∀ value,
      (fields.at? check.1 position).map Value.sorted = some value → check.2 value = .ok ()) :
    fields.sorted.Passes checks := by
  cases fields with
  | byPosition items => trivial
  | byName entries =>
      intro entry member check found
      obtain ⟨_, passes⟩ := each check (List.mem_of_find?_eq_some found)
      have test := List.find?_some found
      have named : check.1 = entry.1 := beq_iff_eq.mp test
      -- No key comes twice among entries by key, so the entry checked is the one looked up.
      have byKey : ByKey (sortedEntries entries []) := byKey_sortedEntries entries .nil
      apply passes
      rw [Fields.at?, ← lookup_sorted, named]
      exact byKey.lookup_of_mem member

theorem Field.check_of_reads {field : Field Item} {found : Option Value} {item : Item}
    (reads : field.Reads found item) (value : Value) (present : found = some value) :
    field.check.2 value = .ok () := by
  cases reads with
  | missing => cases present
  | present reads =>
      cases present
      simp only [Field.check, reads]
      rfl

def oneField (type : RecordType) (field : Field Item) (make : Item → Result) : Shape Result :=
  fun value => do
    let fields ← openRecord type [field.check] value
    let item ← fields.get type 0 field
    fields.requireNoMore type
    return make item

def twoFields (type : RecordType) (first : Field Item) (second : Field Other)
    (make : Item → Other → Result) : Shape Result :=
  fun value => do
    let fields ← openRecord type [first.check, second.check] value
    let item ← fields.get type 0 first
    let other ← fields.get type 1 second
    fields.requireNoMore type
    return make item other

theorem oneField_eq_ok_iff {type : RecordType} {field : Field Item} {make : Item → Result}
    {value : Value} {result : Result} :
    oneField type field make value.sorted = .ok result ↔
      ∃ fields, IsRecord type.size value fields ∧ ∃ item,
        field.Reads ((fields.at? field.name 0).map Value.sorted) item ∧ make item = result := by
  simp only [oneField, bind_eq_ok_iff]
  constructor
  · intro ⟨_, opened, item, reads, _, noMore, made⟩
    obtain ⟨fields, is, _, rfl⟩ := opens_iff.mp ⟨opened, noMore⟩
    cases made
    exact ⟨fields, is, item, get_sorted_eq_ok_iff.mp reads, rfl⟩
  · intro ⟨fields, is, item, reads, made⟩
    have passes : fields.sorted.Passes [field.check] := by
      apply Fields.passes_sorted
      intro check member
      rw [List.mem_singleton.mp member]
      exact ⟨0, field.check_of_reads reads⟩
    obtain ⟨opened, noMore⟩ := opens_iff.mpr ⟨fields, is, passes, rfl⟩
    exact ⟨_, opened, item, get_sorted_eq_ok_iff.mpr reads, (), noMore, congrArg _ made⟩

theorem twoFields_eq_ok_iff {type : RecordType} {first : Field Item} {second : Field Other}
    {make : Item → Other → Result} {value : Value} {result : Result} :
    twoFields type first second make value.sorted = .ok result ↔
      ∃ fields, IsRecord type.size value fields ∧ ∃ item other,
        first.Reads ((fields.at? first.name 0).map Value.sorted) item ∧
        second.Reads ((fields.at? second.name 1).map Value.sorted) other ∧
        make item other = result := by
  simp only [twoFields, bind_eq_ok_iff]
  constructor
  · intro ⟨_, opened, item, reads, other, readsOther, _, noMore, made⟩
    obtain ⟨fields, is, _, rfl⟩ := opens_iff.mp ⟨opened, noMore⟩
    cases made
    exact ⟨fields, is, item, other, get_sorted_eq_ok_iff.mp reads,
      get_sorted_eq_ok_iff.mp readsOther, rfl⟩
  · intro ⟨fields, is, item, other, reads, readsOther, made⟩
    have passes : fields.sorted.Passes [first.check, second.check] := by
      apply Fields.passes_sorted
      intro check member
      rcases List.mem_pair.mp member with rfl | rfl
      · exact ⟨0, first.check_of_reads reads⟩
      · exact ⟨1, second.check_of_reads readsOther⟩
    obtain ⟨opened, noMore⟩ := opens_iff.mpr ⟨fields, is, passes, rfl⟩
    exact ⟨_, opened, item, get_sorted_eq_ok_iff.mpr reads, other,
      get_sorted_eq_ok_iff.mpr readsOther, (), noMore, congrArg _ made⟩

end Shape

end PackageProvider.Json
