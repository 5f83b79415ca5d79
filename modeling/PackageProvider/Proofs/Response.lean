import PackageProvider.Proofs.Json.Writer
import PackageProvider.Response

set_option autoImplicit false

/-! Envelopes as they are written: each is one line, and a failure is told from everything
else by the key that its line starts with. -/

namespace PackageProvider

open Json (Value)

theorem Resource.toJson_numberless (resource : Resource) : resource.toJson.Numberless := by
  refine .object fun entry member => ?_
  obtain ⟨text, same⟩ : ∃ text, entry.2 = .string text := by
    cases platform : resource.platform with
    | none => grind
    | some platform => grind
  exact same ▸ .string text

theorem Change.toJson_numberless (change : Change) : change.toJson.Numberless := by
  have states : (Value.object
      [("is", .string change.now.text), ("was", .string change.was.text)]).Numberless :=
    .object (by simp [Value.Numberless.string])
  exact .object (by simp [Value.Numberless.string, states])

def OneLine (text : String) : Prop := ∃ body, text.toList = body ++ ['\n'] ∧ '\n' ∉ body

def IsFailureLine (text : String) : Prop := ∃ message, text = (Response.failure message).line

namespace Response

theorem toJson_numberless (response : Response) : response.toJson.Numberless := by
  cases response with
  | resources found =>
      have listed : (Value.array (found.map Resource.toJson)).Numberless :=
        .array (List.forall_mem_map.mpr fun resource _ => resource.toJson_numberless)
      exact .object (by simp [listed])
  | report made derive =>
      have listed : (Value.array (made.map Change.toJson)).Numberless :=
        .array (List.forall_mem_map.mpr fun change _ => change.toJson_numberless)
      exact .object (by simp [listed, Value.Numberless.bool])
  | failure message =>
      have body : (Value.object
          [("message", .string message), ("kind", .string "failed")]).Numberless :=
        .object (by simp [Value.Numberless.string])
      exact .object (by simp [body])

theorem line_oneLine (response : Response) : OneLine response.line :=
  ⟨response.toJson.write, by rw [line, String.toList_ofList],
    response.toJson_numberless.newline_not_mem_write⟩

/-- The third character of an envelope, which tells a failure from everything else. -/
theorem line_initial (response : Response) :
    response.line.toList[2]? =
      some (match response with
        | .resources _ => 'r'
        | .report _ _ => 'c'
        | .failure _ => 'e') := by
  rw [line, String.toList_ofList]
  cases response <;> rfl

theorem isFailureLine_iff (response : Response) :
    IsFailureLine response.line ↔ ∃ message, response = .failure message := by
  constructor
  · rintro ⟨message, same⟩
    have initial := response.line_initial
    rw [same, line_initial] at initial
    cases response with
    | resources found => cases initial
    | report made derive => cases initial
    | failure message => exact ⟨message, rfl⟩
  · rintro ⟨message, same⟩
    exact ⟨message, congrArg line same⟩

end Response

end PackageProvider
