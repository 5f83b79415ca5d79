import PackageProvider.Proofs.Json.Schema
import PackageProvider.Request

set_option autoImplicit false

/-! Requests and the JSON values that they may be given by. -/

namespace PackageProvider

open Json (Schema Value Varies Writes lastOf)
open Json.Shape
open Json.Token (Quotes Spells)

theorem string_eq_ok_iff {value : Value} {text : String} :
    Json.Shape.string value.sorted = .ok text ↔ value = .string text := by
  cases value with
  | string other =>
      rw [Value.sorted, Json.Shape.string, Except.ok.injEq, Value.string.injEq]
  | _ =>
      constructor
      · intro same
        cases same
      · intro same
        cases same

theorem bool_eq_ok_iff {value : Value} {flag : Bool} :
    Json.Shape.bool value.sorted = .ok flag ↔ value = .bool flag := by
  cases value with
  | bool other =>
      rw [Value.sorted, Json.Shape.bool, Except.ok.injEq, Value.bool.injEq]
  | _ =>
      constructor
      · intro same
        cases same
      · intro same
        cases same

/-! ### Wanted states -/

namespace Ensure

def said (text : String) : Ensure :=
  match text with
  | "present" | "installed" => .present
  | "absent" | "purged" => .absent
  | "held" => .held
  | "latest" => .latest
  | other => .version other

theorem ofString?_eq_some_iff {text : String} {ensure : Ensure} :
    ofString? text = some ensure ↔ Text.allBlank text.toList = false ∧ said text = ensure := by
  unfold said
  split
  case h_7 noPresent noInstalled noAbsent noPurged noHeld noLatest =>
    rw [ofString?, if_neg (not_or.mpr ⟨noPresent, noInstalled⟩),
      if_neg (not_or.mpr ⟨noAbsent, noPurged⟩), if_neg noHeld, if_neg noLatest]
    cases Text.allBlank text.toList with
    | true => exact iff_of_false (fun same => nomatch same) (fun both => nomatch both.1)
    | false =>
        rw [and_iff_right rfl]
        exact Option.some_inj
  all_goals
    rw [and_iff_right (by decide)]
    exact Option.some_inj

theorem shape_eq_ok_iff {value : Value} {ensure : Ensure} :
    shape value.sorted = .ok ensure ↔ ∃ text, value = .string text ∧
      Text.allBlank text.toList = false ∧ said text = ensure := by
  rw [shape, bind_eq_ok_iff]
  constructor
  · intro ⟨text, reads, parses⟩
    obtain rfl := string_eq_ok_iff.mp reads
    split at parses
    · next means =>
        cases parses
        exact ⟨text, rfl, ofString?_eq_some_iff.mp means⟩
    · cases parses
  · intro ⟨text, same, filled, means⟩
    refine ⟨text, string_eq_ok_iff.mpr same, ?_⟩
    rw [ofString?_eq_some_iff.mpr ⟨filled, means⟩]
    rfl

end Ensure

/-! ### The forms of requests -/

namespace SetRequest

/-- The wanted state of an item: an object with the state, or an array of the state alone. -/
inductive ShouldForm : Value → Ensure → Prop where
  | object {entries : List (String × Value)} {text : String}
      (given : lastOf "ensure" entries = some (.string text))
      (filled : Text.allBlank text.toList = false) :
      ShouldForm (.object entries) (Ensure.said text)
  | array {text : String} (filled : Text.allBlank text.toList = false) :
      ShouldForm (.array [.string text]) (Ensure.said text)

inductive UpdateForm : Value → DesiredItem → Prop where
  | object {entries : List (String × Value)} {name : String} {should : Value} {ensure : Ensure}
      (named : lastOf "name" entries = some (.string name))
      (given : lastOf "should" entries = some should) (form : ShouldForm should ensure) :
      UpdateForm (.object entries) ⟨name, ensure⟩
  | array {name : String} {should : Value} {ensure : Ensure} (form : ShouldForm should ensure) :
      UpdateForm (.array [.string name, should]) ⟨name, ensure⟩

inductive OptionsForm : Value → Bool → Prop where
  | unsaid {entries : List (String × Value)} (missing : lastOf "noop" entries = none) :
      OptionsForm (.object entries) false
  | object {entries : List (String × Value)} {noop : Bool}
      (given : lastOf "noop" entries = some (.bool noop)) : OptionsForm (.object entries) noop
  | empty : OptionsForm (.array []) false
  | array {noop : Bool} : OptionsForm (.array [.bool noop]) noop

inductive Form : Value → SetRequest → Prop where
  | plain {entries : List (String × Value)} {updates : List Value} {items : List DesiredItem}
      (given : lastOf "updates" entries = some (.array updates))
      (each : List.Forall₂ UpdateForm updates items) (missing : lastOf "ral" entries = none) :
      Form (.object entries) ⟨items, false⟩
  | withOptions {entries : List (String × Value)} {updates : List Value} {items : List DesiredItem}
      {options : Value} {noop : Bool} (given : lastOf "updates" entries = some (.array updates))
      (each : List.Forall₂ UpdateForm updates items)
      (optional : lastOf "ral" entries = some options) (form : OptionsForm options noop) :
      Form (.object entries) ⟨items, noop⟩

end SetRequest

inductive GetRequest.Form : Value → GetRequest → Prop where
  | all {entries : List (String × Value)} (missing : lastOf "names" entries = none) :
      GetRequest.Form (.object entries) ⟨[]⟩
  | named {entries : List (String × Value)} {names : List String}
      (given : lastOf "names" entries = some (.array (names.map .string))) :
      GetRequest.Form (.object entries) ⟨names⟩

namespace SetRequest

theorem shouldShape_eq :
    shouldShape = oneField shouldType ⟨"ensure", Ensure.shape, none⟩ id :=
  rfl

theorem shouldShape_eq_ok_iff {value : Value} {ensure : Ensure} :
    shouldShape value.sorted = .ok ensure ↔ ShouldForm value ensure := by
  simp only [shouldShape_eq, oneField_eq_ok_iff, Field.reads_sorted_iff, Ensure.shape_eq_ok_iff, id]
  constructor
  · intro ⟨_, is, _, reads, same⟩
    cases same
    rcases reads with ⟨_, given, _, rfl, filled, rfl⟩ | ⟨_, impossible⟩
    · cases is with
      | object entries => exact .object given filled
      | @array items short =>
          match items, short, given with
          | [_], _, rfl => exact .array filled
    · cases impossible
  · intro form
    cases form with
    | object given filled => exact ⟨_, .object _, _, .inl ⟨_, given, _, rfl, filled, rfl⟩, rfl⟩
    | array filled => exact ⟨_, .array le_rfl, _, .inl ⟨_, rfl, _, rfl, filled, rfl⟩, rfl⟩

theorem updateShape_eq :
    updateShape = twoFields updateType ⟨"name", Json.Shape.string, none⟩
      ⟨"should", shouldShape, none⟩ DesiredItem.mk :=
  rfl

theorem updateShape_eq_ok_iff {value : Value} {item : DesiredItem} :
    updateShape value.sorted = .ok item ↔ UpdateForm value item := by
  simp only [updateShape_eq, twoFields_eq_ok_iff, Field.reads_sorted_iff, string_eq_ok_iff,
    shouldShape_eq_ok_iff]
  constructor
  · intro ⟨_, is, name, ensure, named, reads, same⟩
    cases same
    rcases named with ⟨_, named, rfl⟩ | ⟨_, impossible⟩
    · rcases reads with ⟨_, given, form⟩ | ⟨_, impossible⟩
      · cases is with
        | object entries => exact .object named given form
        | @array items short =>
            match items, short, named, given with
            | [_, _], _, rfl, rfl => exact .array form
      · cases impossible
    · cases impossible
  · intro form
    cases form with
    | object named given form =>
        exact ⟨_, .object _, _, _, .inl ⟨_, named, rfl⟩, .inl ⟨_, given, form⟩, rfl⟩
    | array form => exact ⟨_, .array le_rfl, _, _, .inl ⟨_, rfl, rfl⟩, .inl ⟨_, rfl, form⟩, rfl⟩

theorem noopShape_eq :
    noopShape = oneField optionsType ⟨"noop", Json.Shape.bool, some false⟩ id :=
  rfl

theorem noopShape_eq_ok_iff {value : Value} {noop : Bool} :
    noopShape value.sorted = .ok noop ↔ OptionsForm value noop := by
  simp only [noopShape_eq, oneField_eq_ok_iff, Field.reads_sorted_iff, bool_eq_ok_iff, id]
  constructor
  · intro ⟨_, is, _, reads, same⟩
    cases same
    cases is with
    | object entries =>
        rcases reads with ⟨_, given, rfl⟩ | ⟨missing, stands⟩
        · exact .object given
        · cases stands
          exact .unsaid missing
    | @array items short =>
        match items, short, reads with
        | [], _, .inr ⟨_, rfl⟩ => exact .empty
        | [_], _, .inl ⟨_, rfl, rfl⟩ => exact .array
  · intro form
    cases form with
    | unsaid missing => exact ⟨_, .object _, _, .inr ⟨missing, rfl⟩, rfl⟩
    | object given => exact ⟨_, .object _, _, .inl ⟨_, given, rfl⟩, rfl⟩
    | empty => exact ⟨_, .array (Nat.zero_le _), _, .inr ⟨rfl, rfl⟩, rfl⟩
    | array => exact ⟨_, .array le_rfl, _, .inl ⟨_, rfl, rfl⟩, rfl⟩

theorem updates_eq_ok_iff {value : Value} {items : List DesiredItem} :
    Json.Shape.list updateShape value.sorted = .ok items ↔
      ∃ updates, value = .array updates ∧ List.Forall₂ UpdateForm updates items := by
  simp only [list_eq_ok_iff, updateShape_eq_ok_iff]

theorem shape_eq :
    shape = twoFields recordType ⟨"updates", Json.Shape.list updateShape, none⟩
      ⟨"ral", noopShape, some false⟩ SetRequest.mk :=
  rfl

theorem shape_eq_ok_iff {entries : List (String × Value)} {request : SetRequest} :
    shape (Value.object entries).sorted = .ok request ↔ Form (.object entries) request := by
  simp only [shape_eq, twoFields_eq_ok_iff, Field.reads_sorted_iff, updates_eq_ok_iff,
    noopShape_eq_ok_iff]
  constructor
  · intro ⟨_, .object _, items, noop, updates, options, same⟩
    cases same
    rcases updates with ⟨_, given, _, rfl, each⟩ | ⟨_, impossible⟩
    · rcases options with ⟨_, optional, form⟩ | ⟨missing, stands⟩
      · exact .withOptions given each optional form
      · cases stands
        exact .plain given each missing
    · cases impossible
  · intro form
    cases form with
    | plain given each missing =>
        exact ⟨_, .object _, _, _, .inl ⟨_, given, _, rfl, each⟩, .inr ⟨missing, rfl⟩, rfl⟩
    | withOptions given each optional form =>
        exact ⟨_, .object _, _, _, .inl ⟨_, given, _, rfl, each⟩, .inl ⟨_, optional, form⟩, rfl⟩

end SetRequest

theorem GetRequest.shape_eq :
    shape = oneField recordType ⟨"names", Json.Shape.list Json.Shape.string, some []⟩
      GetRequest.mk :=
  rfl

theorem GetRequest.shape_eq_ok_iff {entries : List (String × Value)} {request : GetRequest} :
    shape (Value.object entries).sorted = .ok request ↔ Form (.object entries) request := by
  have strings {values : List Value} {names : List String} :
      List.Forall₂ (fun value name => value = .string name) values names ↔
        values = names.map .string := by
    rw [← List.forall₂_eq_eq_eq, List.forall₂_map_right_iff]
  simp only [shape_eq, oneField_eq_ok_iff, Field.reads_sorted_iff, list_eq_ok_iff, string_eq_ok_iff,
    strings]
  constructor
  · intro ⟨_, .object _, names, reads, same⟩
    cases same
    rcases reads with ⟨_, given, _, rfl, rfl⟩ | ⟨missing, stands⟩
    · exact .named given
    · cases stands
      exact .all missing
  · intro form
    cases form with
    | all missing => exact ⟨_, .object _, _, .inr ⟨missing, rfl⟩, rfl⟩
    | named given => exact ⟨_, .object _, _, .inl ⟨_, given, _, rfl, rfl⟩, rfl⟩

/-! ### What is known where -/

def SetRequest.schema : Schema :=
  .record [("updates", .list (.record [("name", .leaf), ("should", .record [("ensure", .leaf)])])),
    ("ral", .record [("noop", .leaf)])]

def GetRequest.schema : Schema := .record [("names", .list .leaf)]

theorem stable_string : Stable .leaf Json.Shape.string := by
  apply Stable.of_scalar
  intro value text reads
  rw [string_eq_ok_iff.mp reads, Value.depth]

theorem SetRequest.stable_shape : Stable schema shape := by
  have ensure : Stable .leaf Ensure.shape := by
    apply Stable.of_scalar
    intro value ensure reads
    obtain ⟨text, rfl, _⟩ := Ensure.shape_eq_ok_iff.mp reads
    rw [Value.depth]
  have bool : Stable .leaf Json.Shape.bool := by
    apply Stable.of_scalar
    intro value flag reads
    rw [bool_eq_ok_iff.mp reads, Value.depth]
  have should : Stable (.record [("ensure", .leaf)]) shouldShape := by
    rw [shouldShape_eq]
    exact Stable.oneField rfl ensure
  have update : Stable (.record [("name", .leaf), ("should", .record [("ensure", .leaf)])])
      updateShape := by
    rw [updateShape_eq]
    exact Stable.twoFields rfl rfl (by decide) stable_string should
  have options : Stable (.record [("noop", .leaf)]) noopShape := by
    rw [noopShape_eq]
    exact Stable.oneField rfl bool
  rw [shape_eq]
  exact Stable.twoFields rfl rfl (by decide) update.list options

theorem GetRequest.stable_shape : Stable schema shape := by
  rw [shape_eq]
  exact Stable.oneField rfl stable_string.list

/-! ### Reading requests -/

theorem readRequest_of_object {Request : Type} (shape : Json.Shape Request) {text : String}
    {entries : List (String × Value)} (writes : Writes text (.object entries)) :
    readRequest shape text.toUTF8 =
      match shape (Value.object entries).sorted with
      | .ok request => .ok request
      | .error error => .error (.malformed error) := by
  have decoded : String.fromUTF8? text.toUTF8 = some text := dif_pos text.isValidUTF8
  rw [readRequest, decoded, Option.bind_some, writes.parse_eq]
  rfl

theorem readRequest_object_eq_ok_iff {Request : Type} {shape : Json.Shape Request} {text : String}
    {entries : List (String × Value)} (writes : Writes text (.object entries)) {request : Request} :
    readRequest shape text.toUTF8 = .ok request ↔
      shape (Value.object entries).sorted = .ok request := by
  rw [readRequest_of_object shape writes]
  cases shape (Value.object entries).sorted with
  | ok other => exact ⟨fun same => by cases same; rfl, fun same => by cases same; rfl⟩
  | error error => exact iff_of_false (fun same => nomatch same) (fun same => nomatch same)

theorem readRequest_of_other {Request : Type} (shape : Json.Shape Request) {text : String}
    {value : Value} (writes : Writes text value) (other : ∀ entries, value ≠ .object entries) :
    readRequest shape text.toUTF8 = .error .notAnObject := by
  have decoded : String.fromUTF8? text.toUTF8 = some text := dif_pos text.isValidUTF8
  rw [readRequest, decoded, Option.bind_some, writes.parse_eq]
  cases value with
  | object entries => exact absurd rfl (other entries)
  | _ => rfl

/-- What becomes of a text that writes the value, where requests may be given by values of
these forms. -/
structure Decoded {Request : Type} (shape : Json.Shape Request) (schema : Schema)
    (Form : Value → Request → Prop) (text : String) (value : Value) : Prop where
  accepted : ∀ request, readRequest shape text.toUTF8 = .ok request ↔ Form value request
  noObject : (∀ entries, value ≠ .object entries) →
    readRequest shape text.toUTF8 = .error .notAnObject
  refused : ∀ entries, value = .object entries → (∀ request, ¬ Form value request) →
    ∃ error, readRequest shape text.toUTF8 = .error (.malformed error)
  kept : ∀ otherText other, Writes otherText other →
    Relation.ReflTransGen (Varies schema) value other → ∀ request,
      readRequest shape text.toUTF8 = .ok request →
        readRequest shape otherText.toUTF8 = .ok request

theorem Decoded.of_form {Request : Type} {shape : Json.Shape Request} {schema : Schema}
    {Form : Value → Request → Prop}
    (reads : ∀ entries request,
      shape (Value.object entries).sorted = .ok request ↔ Form (.object entries) request)
    (objects : ∀ value request, Form value request → ∃ entries, value = .object entries)
    (stable : Stable schema shape) {text : String} {value : Value} (writes : Writes text value) :
    Decoded shape schema Form text value := by
  have accepted : ∀ request, readRequest shape text.toUTF8 = .ok request ↔ Form value request := by
    intro request
    by_cases object : ∃ entries, value = .object entries
    · obtain ⟨entries, rfl⟩ := object
      rw [readRequest_object_eq_ok_iff writes, reads]
    · have other := not_exists.mp object
      rw [readRequest_of_other shape writes other]
      exact iff_of_false (fun same => nomatch same) fun form => object (objects value request form)
  refine ⟨accepted, readRequest_of_other shape writes, ?_, ?_⟩
  · intro entries same none
    subst same
    cases outcome : readRequest shape text.toUTF8 with
    | ok request => exact absurd ((accepted request).mp outcome) (none request)
    | error error =>
        rw [readRequest_of_object shape writes] at outcome
        split at outcome
        · cases outcome
        · cases outcome
          exact ⟨_, rfl⟩
  · intro otherText other writesToo varies request reads
    obtain ⟨entries, rfl⟩ := objects value request ((accepted request).mp reads)
    obtain ⟨others, rfl⟩ := Varies.object_of_steps varies
    rw [readRequest_object_eq_ok_iff writes] at reads
    rw [readRequest_object_eq_ok_iff writesToo]
    exact stable.of_steps varies reads

theorem readRequest_decoded {text : String} {value : Value} (writes : Writes text value) :
    Decoded SetRequest.shape SetRequest.schema SetRequest.Form text value ∧
      Decoded GetRequest.shape GetRequest.schema GetRequest.Form text value := by
  constructor
  · apply Decoded.of_form _ _ SetRequest.stable_shape writes
    · intro entries request
      exact SetRequest.shape_eq_ok_iff
    · intro value request form
      cases form with
      | plain | withOptions => exact ⟨_, rfl⟩
  · apply Decoded.of_form _ _ GetRequest.stable_shape writes
    · intro entries request
      exact GetRequest.shape_eq_ok_iff
    · intro value request form
      cases form with
      | all | named => exact ⟨_, rfl⟩

theorem extraKey_decoded :
    readRequest SetRequest.shape "\x7b\"updates\": [[\"a\", [\"latest\"]]]\x7d".toUTF8 =
        .ok ⟨[⟨"a", .latest⟩], false⟩ ∧
      readRequest SetRequest.shape
          "\x7b\"x\":null,\"updates\": [[\"a\", [\"latest\"]]]\x7d".toUTF8 =
        .ok ⟨[⟨"a", .latest⟩], false⟩ := by
  let updates : String × Value :=
    ("updates", .array [.array [.string "a", .array [.string "latest"]]])
  have spells : Spells "\"updates\": [[\"a\", [\"latest\"]]]\x7d".toList
      [.string "updates", .colon, .openArray, .openArray, .string "a", .comma, .openArray,
        .string "latest", .closeArray, .closeArray, .closeArray, .closeObject] :=
    .string (show Quotes "updates".toList _ from .of_plain (by decide)) <| .mark .colon <|
      .space rfl <| .mark .openArray <| .mark .openArray <|
      .string (show Quotes "a".toList _ from .of_plain (by decide)) <| .mark .comma <|
      .space rfl <| .mark .openArray <|
      .string (show Quotes "latest".toList _ from .of_plain (by decide)) <| .mark .closeArray <|
      .mark .closeArray <| .mark .closeArray <| .mark .closeObject .nothing
  have plain : Writes "\x7b\"updates\": [[\"a\", [\"latest\"]]]\x7d" (.object [updates]) :=
    ⟨.mark .openObject spells, by decide⟩
  have extended : Writes "\x7b\"x\":null,\"updates\": [[\"a\", [\"latest\"]]]\x7d"
      (.object [("x", .null), updates]) :=
    ⟨.mark .openObject <| .string (show Quotes "x".toList _ from .of_plain (by decide)) <|
      .mark .colon <| .word .null <| .mark .comma spells, by decide⟩
  have decoded := (readRequest_decoded plain).1
  have form : SetRequest.Form (.object [updates]) ⟨[⟨"a", .latest⟩], false⟩ :=
    .plain rfl (.cons (.array (.array (by decide))) .nil) rfl
  have reads := (decoded.accepted _).mpr form
  have added : Varies SetRequest.schema (.object ([] ++ [] ++ [updates]))
      (.object ([] ++ [("x", .null)] ++ [updates])) := by
    apply Varies.unknown
    · intro entry none
      cases none
    · intro entry member
      rw [List.mem_singleton.mp member]
      rfl
  exact ⟨reads, decoded.kept _ _ extended (.single added) _ reads⟩

end PackageProvider
