import PackageProvider.Convergence
import PackageProvider.Proofs.Plan

set_option autoImplicit false

/-! What every call of an engine keeps, whether it succeeds or fails, is kept by what is made
of calls: taking stock, planning, executing and converging. -/

namespace PackageProvider

namespace Act

variable {World Error Failure Result Next : Type} {kept : World → Prop}

/-- What holds of the world before the action holds of it afterwards, whatever comes of it. -/
def Keeps (action : Act World Error Result) (kept : World → Prop) : Prop :=
  ∀ before, kept before → action.Ensures before fun _ after => kept after

namespace Keeps

theorem pure (value : Result) : (Pure.pure value : Act World Error Result).Keeps kept :=
  fun _ holds => .pure holds

theorem note (level : Level) (text : String) :
    (Act.note level text : Act World Error Unit).Keeps kept :=
  fun _ holds => .note holds

theorem bind {first : Act World Error Result} {next : Result → Act World Error Next}
    (early : first.Keeps kept) (late : ∀ value, (next value).Keeps kept) :
    (first >>= next).Keeps kept := by
  intro before holds
  refine .andThen (early before holds) ?_ fun _ _ held => held
  exact fun value after held => late value after held

theorem forM {Item : Type} {action : Item → Act World Error Unit}
    (each : ∀ item, (action item).Keeps kept) (items : List Item) :
    (items.forM action).Keeps kept := by
  induction items with
  | nil => exact .pure ()
  | cons item rest ih => exact .bind (each item) fun _ => ih

theorem mapFailure {action : Act World Error Result} (keeps : action.Keeps kept)
    (rename : Error → Failure) : (action.mapFailure rename).Keeps kept := by
  intro before holds
  refine (Ensures.mapFailure (keeps before holds)).mono fun result after held => ?_
  cases result with
  | ok value => exact held
  | error failure =>
      obtain ⟨_, _, held⟩ := held
      exact held

theorem retried {operation : Act World EngineError Result} (keeps : operation.Keeps kept)
    (policy : RetryPolicy) : (Retry.run policy Retry.warn operation).Keeps kept := by
  intro before holds
  refine .attempt kept ?_ _ before holds
  intro world holdsThere
  exact (keeps world holdsThere).mono fun _ _ held => ⟨held, fun _ _ => held⟩

theorem requireSupported (items : List DesiredItem) :
    (PackageProvider.requireSupported items).Keeps kept := by
  intro before holds
  refine (requireSupported_ensures items before).mono fun _ after kept => ?_
  rw [kept.1]
  exact holds

end Keeps

end Act

namespace Engine

variable {World Handle : Type}

structure CallsKeep (engine : Engine World Handle) (kept : World × Handle → Prop) : Prop where
  installed : ∀ names, (engine.installed names).Keeps kept
  available : ∀ names, (engine.available names).Keeps kept
  submit : ∀ directive, (engine.submit directive).Keeps kept
  resolve : engine.resolve.Keeps kept
  download : ∀ builds, (engine.download builds).Keeps kept
  apply : ∀ transaction, (engine.apply transaction).Keeps kept

namespace CallsKeep

open Act

variable {engine : Engine World Handle} {kept : World × Handle → Prop}
  (calls : engine.CallsKeep kept)

include calls

theorem observe (names : List String) : (engine.observe names).Keeps kept :=
  .bind (calls.installed names) fun _ => .bind (.note _ _) fun _ => .pure _

theorem takeStock (names : List String) : (engine.takeStock names).Keeps kept := by
  refine .bind (calls.observe names) fun present => ?_
  cases names.isEmpty with
  | true => exact .pure _
  | false => exact .bind (calls.available names) fun _ => .pure _

theorem plan (items : List DesiredItem) : (engine.plan items).Keeps kept := by
  refine .bind (.requireSupported items) fun _ => ?_
  refine .bind (.mapFailure (calls.observe _) _) fun builds => ?_
  exact .bind (.forM (fun _ => .note _ _) _) fun _ => .bind (.note _ _) fun _ => .pure _

theorem carryOut (transaction : Transaction) (retry : RetryPolicy) :
    (engine.carryOut transaction retry).Keeps kept := by
  have performs : (do
      engine.apply transaction
      Act.note .info ("Applied " ++ transaction.size.repr ++ " package operation(s)")).Keeps kept :=
    .bind (calls.apply transaction) fun _ => .note _ _
  unfold Engine.carryOut
  cases transaction.installs.isEmpty with
  | true => exact performs
  | false => exact .bind (.retried (calls.download _) retry) fun _ => performs

theorem execute (intents : List Intent) (options : RunOptions) :
    (engine.execute intents options).Keeps kept := by
  unfold Engine.execute
  cases intents.isEmpty with
  | true => exact .pure _
  | false =>
      refine .bind (.forM (fun intent => calls.submit intent.directive) intents) fun _ => ?_
      refine .bind calls.resolve fun transaction => .bind (.note _ _) fun _ => ?_
      cases options.noop with
      | true => exact .bind (.note _ _) fun _ => .pure _
      | false =>
          cases transaction.isEmpty with
          | true => exact .pure _
          | false => exact .bind (calls.carryOut transaction options.retry) fun _ => .pure _

end CallsKeep

end Engine

end PackageProvider
