import PackageProvider.Proofs.Json.Shape
import PackageProvider.Proofs.Response

set_option autoImplicit false

/-! Envelopes as they are read. The keys of a line tell which kind of envelope it is, and an
inventory is got back from its line as it was. -/

namespace PackageProvider

open Json (Value)

/-! ### Bytes -/

def OneLineBytes (bytes : List UInt8) : Prop := ∃ body, bytes = body ++ [10] ∧ 10 ∉ body

theorem newline_ne_ofNat {code : Nat} (byte : code < 256) (other : code ≠ 10) :
    (10 : UInt8) ≠ .ofNat code := by
  intro same
  have codes := congrArg UInt8.toNat same
  rw [UInt8.toNat_ofNat_of_lt' byte] at codes
  exact other codes.symm

theorem newline_not_mem_utf8EncodeChar {c : Char} (other : c ≠ '\n') :
    10 ∉ String.utf8EncodeChar c := by
  have code : c.val.toNat ≠ 10 := fun same => other (Char.toNat_inj.mp same)
  simp only [String.utf8EncodeChar]
  -- Of the bytes of a character that takes more than one, each has its highest bit set.
  split_ifs with one two three
  all_goals
    simp only [List.mem_cons, List.not_mem_nil, or_false, not_or]
    and_intros
    all_goals exact newline_ne_ofNat (by omega) (by omega)

theorem utf8_eq_flatMap (text : String) :
    text.toUTF8.data.toList = text.toList.flatMap String.utf8EncodeChar := by
  have encoded : text.toUTF8 = (text.toList.flatMap String.utf8EncodeChar).toByteArray := by
    rw [← List.utf8Encode, ← String.toByteArray_ofList, String.ofList_toList]
    rfl
  rw [encoded, List.data_toByteArray]

theorem OneLine.bytes {text : String} (oneLine : OneLine text) :
    OneLineBytes text.toUTF8.data.toList := by
  obtain ⟨body, same, none⟩ := oneLine
  refine ⟨body.flatMap String.utf8EncodeChar, ?_, ?_⟩
  · rw [utf8_eq_flatMap, same, List.flatMap_append]
    rfl
  · intro member
    obtain ⟨c, within, byte⟩ := List.mem_flatMap.mp member
    exact newline_not_mem_utf8EncodeChar (fun same => none (same ▸ within)) byte

/-! ### Reading -/

namespace Json.Value

def text? : Value → Option String
  | .string text => some text
  | .null | .bool _ | .number _ | .array _ | .object _ => none

def items? : Value → Option (List Value)
  | .array items => some items
  | .null | .bool _ | .number _ | .string _ | .object _ => none

theorem get?_sorted_object (entries : List (String × Value)) (key : String) :
    (object entries).sorted.get? key = (lastOf key entries).map sorted := by
  rw [sorted, get?, Shape.find?_eq_lookup, lookup_sortedEntries, List.lookup_nil, Option.or_none]
  cases lastOf key entries <;> rfl

end Json.Value

/-! ### The values of envelopes -/

namespace Resource

theorem depth_toJson (resource : Resource) : resource.toJson.depth = 1 := by
  obtain ⟨name, ensure, platform⟩ := resource
  cases platform <;> rfl

def ofJson? (value : Value) : Option Resource := do
  let name ← (← value.get? "name").text?
  let ensure ← (← value.get? "ensure").text?
  match value.get? "platform" with
  | none => return ⟨name, ensure, none⟩
  | some platform => return ⟨name, ensure, some (← platform.text?)⟩

theorem ofJson?_sorted_toJson (resource : Resource) :
    ofJson? resource.toJson.sorted = some resource := by
  obtain ⟨name, ensure, platform⟩ := resource
  simp only [ofJson?, toJson, Value.get?_sorted_object]
  cases platform <;> rfl

end Resource

theorem Change.depth_toJson (change : Change) : change.toJson.depth = 2 := rfl

namespace Response

theorem depth_toJson_le (response : Response) : response.toJson.depth ≤ 4 := by
  cases response with
  | resources found =>
      have listed : (Value.array (found.map Resource.toJson)).depth ≤ 2 :=
        Value.depth_array_le
          (List.forall_mem_map.mpr fun resource _ => resource.depth_toJson.le)
      refine Value.depth_object_le (List.forall_mem_singleton.mpr ?_)
      exact Nat.le_succ_of_le listed
  | report made derive =>
      have listed : (Value.array (made.map Change.toJson)).depth ≤ 3 :=
        Value.depth_array_le (List.forall_mem_map.mpr fun change _ => change.depth_toJson.le)
      exact Value.depth_object_le
        (List.forall_mem_cons.mpr ⟨listed, List.forall_mem_singleton.mpr (Nat.zero_le 3)⟩)
  | failure message => exact Nat.le_of_ble_eq_true rfl

theorem parse_line (response : Response) :
    Json.parse response.line.toList = some response.toJson.sorted := by
  have shallow : response.toJson.depth ≤ Json.Reading.depthLimit :=
    le_trans response.depth_toJson_le (by decide)
  rw [line, String.toList_ofList]
  exact Value.parse_write response.toJson_numberless shallow (.space rfl .nothing)

def keys : Response → List String
  | .resources _ => ["resources"]
  | .report _ _ => ["changes", "derive"]
  | .failure _ => ["error"]

theorem exists_sorted_toJson (response : Response) :
    ∃ entries, response.toJson.sorted = .object entries ∧ entries.map (·.1) = response.keys := by
  cases response with
  | resources found => exact ⟨_, rfl, rfl⟩
  | report made derive =>
      have later : ¬ "derive" < "changes" := by decide
      refine ⟨_, rfl, ?_⟩
      simp [Json.sortedEntries, Json.insertEntry, later, keys]
  | failure message => exact ⟨_, rfl, rfl⟩

def listed? (line : String) : Option (List Resource) := do
  let envelope ← Json.parse line.toList
  let items ← (← envelope.get? "resources").items?
  items.mapM Resource.ofJson?

theorem listed?_line (found : List Resource) : listed? (resources found).line = some found := by
  have items : (found.map fun resource => resource.toJson.sorted).mapM Resource.ofJson? =
      some found := by
    induction found with
    | nil => rfl
    | cons resource rest ih =>
        rw [List.map_cons, List.mapM_cons, resource.ofJson?_sorted_toJson, ih]
        rfl
  have entry : (resources found).toJson.sorted.get? "resources" =
      some (.array (found.map fun resource => resource.toJson.sorted)) := by
    rw [toJson, Value.get?_sorted_object]
    change some (Value.array (Json.sortedItems (found.map Resource.toJson))) = _
    rw [Json.sortedItems_eq, List.map_map]
    rfl
  rw [listed?, parse_line, Option.bind_eq_bind, Option.bind_some, entry]
  exact items

end Response

/-! ### Inventories -/

namespace Resource

def build? (resource : Resource) : Option Build :=
  resource.platform.map fun arch => ⟨resource.name, resource.ensure, arch⟩

def absentName? (resource : Resource) : Option String :=
  if resource.platform.isNone then some resource.name else none

end Resource

namespace Inventory

/-- What has a platform is present and what has none is absent, whatever it says of itself. -/
def ofResources (found : List Resource) : Inventory :=
  { present := found.filterMap Resource.build?, absent := found.filterMap Resource.absentName? }

theorem ofResources_listing (inventory : Inventory) :
    ofResources (inventory.present.map .ofBuild ++ inventory.absent.map .ofAbsent) =
      inventory := by
  have present : (inventory.present.map Resource.ofBuild).filterMap Resource.build? =
      inventory.present := by
    rw [List.filterMap_map]
    exact List.filterMap_some
  have noBuild : (inventory.absent.map Resource.ofAbsent).filterMap Resource.build? = [] :=
    List.filterMap_eq_nil_iff.mpr (List.forall_mem_map.mpr fun _ _ => rfl)
  have noName : (inventory.present.map Resource.ofBuild).filterMap Resource.absentName? = [] :=
    List.filterMap_eq_nil_iff.mpr (List.forall_mem_map.mpr fun _ _ => rfl)
  have absent : (inventory.absent.map Resource.ofAbsent).filterMap Resource.absentName? =
      inventory.absent := by
    rw [List.filterMap_map]
    exact List.filterMap_some
  rw [ofResources, List.filterMap_append, present, noBuild, List.append_nil,
    List.filterMap_append, noName, absent, List.nil_append]

def ofLine? (line : String) : Option Inventory := (Response.listed? line).map ofResources

theorem ofLine?_line (inventory : Inventory) :
    ofLine? (Response.ofInventory inventory).line = some inventory := by
  rw [ofLine?, Response.ofInventory, Response.listed?_line, Option.map_some, ofResources_listing]

end Inventory

/-! ### Every envelope -/

/-- An envelope is one line, as text and in bytes, and the keys of its object are those of its
kind. An inventory is read back from its line, so the lines of two inventories differ as soon as
the inventories do. -/
theorem Response.line_unambiguous :
    (∀ response : Response, OneLine response.line ∧ OneLineBytes response.line.toUTF8.data.toList ∧
      ∃ entries, Json.parse response.line.toList = some (.object entries) ∧
        entries.map (·.1) = response.keys) ∧
      (∀ inventory, Inventory.ofLine? (Response.ofInventory inventory).line = some inventory) ∧
      ∀ one other, (Response.ofInventory one).line = (Response.ofInventory other).line ↔
        one = other := by
  refine ⟨fun response => ?_, Inventory.ofLine?_line, fun one other => ⟨fun same => ?_, ?_⟩⟩
  · obtain ⟨entries, sorted, keys⟩ := response.exists_sorted_toJson
    exact ⟨response.line_oneLine, response.line_oneLine.bytes, entries,
      sorted ▸ response.parse_line, keys⟩
  · have read := Inventory.ofLine?_line one
    rw [same, Inventory.ofLine?_line other] at read
    exact (Option.some.inj read).symm
  · exact congrArg fun inventory => (Response.ofInventory inventory).line

-- The EVR of an installed package may look like what is said of an absent one.
example :
    (Response.ofInventory { present := [⟨"tree", "absent", "noarch"⟩] }).line ≠
      (Response.ofInventory { absent := ["tree"] }).line := by
  decide

-- A change has no platform that would tell the two apart.
example :
    (Response.changes [⟨"tree", .installed "1.8-1", .absent⟩]).line =
      (Response.changes [⟨"tree", .installed "1.8-1", .installed "absent"⟩]).line :=
  rfl

end PackageProvider
