import AccessAudit.Json.Reader
import Mathlib.Data.List.DropRight
import Mathlib.Data.List.Forall2

/-!
# Readers that agree

The same text is read to different ends: a value is kept or skipped, and a document is judged while
it is read or turned into a value first. Readers agree if, wherever both of them succeed, they stop
at the same place, with results that are related.

Agreement goes through every combinator of readers, so two readers of the same shape agree as soon
as their parts do. In particular a value that is skipped ends where the same value ends when it is
kept, to whatever depth either reader goes.
-/

namespace AccessAudit
namespace Json
namespace Reader

variable {Cause Other α β γ δ σ τ : Type}

theorem bind_eq_ok_iff {reader : Reader Cause α} {next : α → Reader Cause β}
    {chars rest : List Char} {result : β} :
    (reader >>= next) chars = .ok (result, rest) ↔
      ∃ first between, reader chars = .ok (first, between) ∧
        next first between = .ok (result, rest) := by
  change Except.bind (reader chars) (fun pair => next pair.1 pair.2) = _ ↔ _
  cases reader chars with
  | error => simp [Except.bind]
  | ok pair =>
      rcases pair with ⟨first, between⟩
      simp [Except.bind]

/-- Where both readers succeed, they leave the same rest and their results are related. -/
def Agree (related : α → β → Prop) (left : Reader Cause α) (right : Reader Other β) : Prop :=
  ∀ chars first rest second otherRest, left chars = .ok (first, rest) →
    right chars = .ok (second, otherRest) → rest = otherRest ∧ related first second

namespace Agree

variable {related : α → β → Prop} {results : γ → δ → Prop}

theorem bind {left : Reader Cause α} {right : Reader Other β} {next : α → Reader Cause γ}
    {otherNext : β → Reader Other δ} (start : Agree related left right)
    (later : ∀ first second, related first second →
      Agree results (next first) (otherNext second)) :
    Agree results (left >>= next) (right >>= otherNext) := by
  intro chars result rest other otherRest read otherRead
  rcases bind_eq_ok_iff.mp read with ⟨first, between, started, continued⟩
  rcases bind_eq_ok_iff.mp otherRead with ⟨second, otherBetween, otherStarted, otherContinued⟩
  rcases start _ _ _ _ _ started otherStarted with ⟨rfl, isRelated⟩
  exact later first second isRelated _ _ _ _ _ continued otherContinued

theorem pure {first : α} {second : β} (isRelated : related first second) :
    Agree related (Pure.pure first : Reader Cause α) (Pure.pure second : Reader Other β) := by
  rintro chars _ _ _ _ ⟨⟩ ⟨⟩
  exact ⟨rfl, isRelated⟩

theorem map_right {results : α → δ → Prop} {left : Reader Cause α} {right : Reader Other β}
    {next : β → δ} (agree : Agree related left right)
    (maps : ∀ first second, related first second → results first (next second)) :
    Agree results left (do return next (← right)) := by
  rw [← bind_pure left]
  apply agree.bind
  intro first second isRelated
  exact Agree.pure (maps first second isRelated)

theorem of_left_fails {left : Reader Cause α} {right : Reader Other β}
    (fails : ∀ chars result, left chars ≠ .ok result) : Agree related left right := by
  intro chars first rest second otherRest read
  exact absurd read (fails chars _)

theorem of_right_fails {left : Reader Cause α} {right : Reader Other β}
    (fails : ∀ chars result, right chars ≠ .ok result) : Agree related left right := by
  intro chars first rest second otherRest _ read
  exact absurd read (fails chars _)

theorem malformed_left {right : Reader Other β} :
    Agree related (malformed : Reader Cause α) right :=
  of_left_fails fun _ _ impossible => by cases impossible

theorem malformed_right {left : Reader Cause α} :
    Agree related left (malformed : Reader Other β) :=
  of_right_fails fun _ _ impossible => by cases impossible

theorem reject_left {right : Reader Other β} (cause : Cause) :
    Agree related (reject cause : Reader Cause α) right :=
  of_left_fails fun _ _ impossible => by cases impossible

theorem peek_bind {next : Option Char → Reader Cause γ} {otherNext : Option Char → Reader Other δ}
    (later : ∀ start, Agree results (next start) (otherNext start)) :
    Agree results (peek >>= next) (peek >>= otherNext) := by
  intro chars
  exact later (skipSpace chars).head? (skipSpace chars)

theorem advance_bind {next : Unit → Reader Cause γ} {otherNext : Unit → Reader Other δ}
    (later : Agree results (next ()) (otherNext ())) :
    Agree results (advance >>= next) (advance >>= otherNext) := by
  intro chars
  exact later chars.tail

theorem colon_bind {next : Unit → Reader Cause γ} {otherNext : Unit → Reader Other δ}
    (later : Agree results (next ()) (otherNext ())) :
    Agree results (colon >>= next) (colon >>= otherNext) := by
  have colons : Agree Eq (colon : Reader Cause Unit) (colon : Reader Other Unit) := by
    apply peek_bind
    intro start
    split
    · rintro chars _ _ _ _ ⟨⟩ ⟨⟩
      exact ⟨rfl, rfl⟩
    · exact malformed_left
  apply colons.bind
  intro _ _ _
  exact later

theorem itemsFrom {item : Reader Cause α} {otherItem : Reader Other β}
    (items : Agree related item otherItem) (budget otherBudget : Nat) :
    Agree (List.Forall₂ related) (itemsFrom item budget) (itemsFrom otherItem otherBudget) := by
  induction budget generalizing otherBudget with
  | zero => exact malformed_left
  | succ budget ih =>
      cases otherBudget with
      | zero => exact malformed_right
      | succ otherBudget =>
          apply items.bind
          intro first second isRelated
          apply Agree.peek_bind
          intro start
          split
          · apply Agree.advance_bind
            apply (ih otherBudget).bind
            intro values otherValues areRelated
            exact Agree.pure (.cons isRelated areRelated)
          · apply Agree.advance_bind
            exact Agree.pure (.cons isRelated .nil)
          · exact malformed_left

theorem items {item : Reader Cause α} {otherItem : Reader Other β}
    (agree : Agree related item otherItem) (budget otherBudget : Nat) :
    Agree (List.Forall₂ related) (items budget item) (items otherBudget otherItem) := by
  apply Agree.peek_bind
  intro start
  split
  · apply Agree.advance_bind
    exact Agree.pure .nil
  · exact agree.itemsFrom budget otherBudget

end Agree

section Uses

variable {use otherUse : Use}

/-- Results that are the same where they are kept alike. -/
def SameIfAlike (use otherUse : Use) (left right : α) : Prop := use = otherUse → left = right

/-- What can be read at all can be skipped, and skipping it ends at the same place. -/
def SkipsAlong (read? : Use → List Char → Option (α × List Char)) : Prop :=
  ∀ use chars result rest, read? use chars = some (result, rest) →
    ∃ skipped, read? .skip chars = some (skipped, rest)

theorem SkipsAlong.agree {read? : Use → List Char → Option (α × List Char)}
    (along : SkipsAlong read?) :
    Agree (SameIfAlike use otherUse) (ofOption (read? use) : Reader Cause α)
      (ofOption (read? otherUse) : Reader Other α) := by
  intro chars first rest second otherRest read otherRead
  have isRead : read? use chars = some (first, rest) := by
    unfold ofOption at read
    split at read <;> cases read
    assumption
  have isOtherRead : read? otherUse chars = some (second, otherRest) := by
    unfold ofOption at otherRead
    split at otherRead <;> cases otherRead
    assumption
  rcases along use chars first rest isRead with ⟨skipped, isSkipped⟩
  rcases along otherUse chars second otherRest isOtherRead with ⟨otherSkipped, isOtherSkipped⟩
  rw [isSkipped] at isOtherSkipped
  cases isOtherSkipped
  refine ⟨rfl, ?_⟩
  rintro rfl
  rw [isRead] at isOtherRead
  cases isOtherRead
  rfl

theorem rest_eq_of_ended {skipped result : α} {kept? : Option β} {finish : β → α}
    {behind rest : List Char}
    (ended : (match use with
      | .skip => some (skipped, behind)
      | .keep => kept?.bind fun kept => some (finish kept, behind)) = some (result, rest)) :
    behind = rest := by
  cases use with
  | skip =>
      cases ended
      rfl
  | keep =>
      rcases Option.bind_eq_some_iff.mp ended with ⟨_, _, returned⟩
      cases returned
      rfl

theorem skipsAlong_readString? : SkipsAlong readString? := by
  intro use chars contents rest read
  unfold readString? at read ⊢
  rcases Option.bind_eq_some_iff.mp read with ⟨⟨pieces, behind⟩, isPieces, ended⟩
  have sameRest : behind = rest := rest_eq_of_ended ended
  exact ⟨"", by simp [isPieces, sameRest]⟩

theorem skipsAlong_readScalar? : SkipsAlong readScalar? := by
  intro use chars json rest read
  unfold readScalar? at read ⊢
  split at read
  · cases read
  · rcases Option.map_eq_some_iff.mp read with ⟨⟨contents, behind⟩, isString, returned⟩
    cases returned
    rcases skipsAlong_readString? use _ _ _ isString with ⟨skipped, isSkipped⟩
    exact ⟨.string skipped, by simp [isSkipped]⟩
  · exact ⟨json, read⟩
  · exact ⟨json, read⟩
  · exact ⟨json, read⟩
  · rcases Option.bind_eq_some_iff.mp read with ⟨⟨number, behind⟩, isNumber, ended⟩
    have sameRest : behind = rest := rest_eq_of_ended ended
    exact ⟨.null, by simp [isNumber, sameRest]⟩

theorem agree_scalar :
    Agree (SameIfAlike use otherUse) (scalar use : Reader Cause Json)
      (scalar otherUse : Reader Other Json) := by
  have along : SkipsAlong fun use chars => readScalar? use (skipSpace chars) := by
    intro use chars
    exact skipsAlong_readScalar? use (skipSpace chars)
  exact along.agree

theorem agree_membersFrom {related : σ → τ → Prop} {member : σ → String → Reader Cause σ}
    {otherMember : τ → String → Reader Other τ}
    (step : ∀ state other key otherKey, related state other →
      SameIfAlike use otherUse key otherKey →
      Agree related (member state key) (otherMember other otherKey))
    (budget otherBudget : Nat) {state : σ} {other : τ} (initial : related state other) :
    Agree related (membersFrom use member budget state)
      (membersFrom otherUse otherMember otherBudget other) := by
  induction budget generalizing otherBudget state other with
  | zero => exact Agree.malformed_left
  | succ budget ih =>
      cases otherBudget with
      | zero => exact Agree.malformed_right
      | succ otherBudget =>
          apply Agree.peek_bind
          intro start
          split
          · apply Agree.advance_bind
            apply skipsAlong_readString?.agree.bind
            intro key otherKey sameKey
            apply (step state other key otherKey initial sameKey).bind
            intro extended otherExtended areRelated
            apply Agree.peek_bind
            intro start
            split
            · apply Agree.advance_bind
              exact ih otherBudget areRelated
            · apply Agree.advance_bind
              exact Agree.pure areRelated
            · exact Agree.malformed_left
          · exact Agree.malformed_left

theorem agree_members {related : σ → τ → Prop} {member : σ → String → Reader Cause σ}
    {otherMember : τ → String → Reader Other τ}
    (step : ∀ state other key otherKey, related state other →
      SameIfAlike use otherUse key otherKey →
      Agree related (member state key) (otherMember other otherKey))
    (budget otherBudget : Nat) {state : σ} {other : τ} (initial : related state other) :
    Agree related (members use budget member state)
      (members otherUse otherBudget otherMember other) := by
  apply Agree.peek_bind
  intro start
  split
  · apply Agree.advance_bind
    exact Agree.pure initial
  · exact agree_membersFrom step budget otherBudget initial

theorem scalar_skipSpace (chars : List Char) :
    (scalar use : Reader Cause Json) (skipSpace chars) = scalar use chars := by
  simp only [scalar, ofOption, skipSpace, List.dropWhile_idempotent]

/-- No scalar begins with a bracket or a brace. -/
theorem head?_of_scalar {chars rest : List Char} {json : Json}
    (read : (scalar use : Reader Cause Json) chars = .ok (json, rest)) :
    (skipSpace chars).head? ≠ some '[' ∧ (skipSpace chars).head? ≠ some '\x7b' := by
  simp only [scalar, ofOption] at read
  refine ⟨?_, ?_⟩
  all_goals
    intro opened
    rw [List.eq_cons_of_mem_head? opened] at read
    cases use <;> cases read

/-- A reader that goes to no depth agrees with one that goes to any. -/
theorem agree_scalar_value (budget depth : Nat) :
    Agree (SameIfAlike use otherUse) (scalar use : Reader Cause Json)
      (value otherUse budget depth : Reader Other Json) := by
  cases depth with
  | zero => exact agree_scalar
  | succ depth =>
      intro chars json rest other otherRest read otherRead
      rcases head?_of_scalar read with ⟨notArray, notObject⟩
      rw [value] at otherRead
      rcases bind_eq_ok_iff.mp otherRead with ⟨next, behind, peeked, continued⟩
      cases peeked
      generalize (skipSpace chars).head? = next at notArray notObject continued
      split at continued
      · exact absurd rfl notArray
      · exact absurd rfl notObject
      · rw [scalar_skipSpace] at continued
        exact agree_scalar _ _ _ _ _ read continued

theorem agree_value (budget otherBudget depth otherDepth : Nat) :
    Agree (SameIfAlike use otherUse) (value use budget depth : Reader Cause Json)
      (value otherUse otherBudget otherDepth : Reader Other Json) := by
  induction depth generalizing otherDepth with
  | zero => exact agree_scalar_value otherBudget otherDepth
  | succ depth ih =>
      cases otherDepth with
      | zero =>
          intro chars json rest other otherRest read otherRead
          rcases agree_scalar_value budget (depth + 1) _ _ _ _ _ otherRead read with
            ⟨sameRest, same⟩
          exact ⟨sameRest.symm, fun alike => (same alike.symm).symm⟩
      | succ otherDepth =>
          rw [value, value]
          apply Agree.peek_bind
          intro start
          split
          · apply Agree.advance_bind
            apply ((ih otherDepth).items budget otherBudget).bind
            intro values otherValues sameItems
            apply Agree.pure
            intro alike
            have sameValues := sameItems.imp fun _ _ same => same alike
            rw [List.forall₂_eq_eq_eq] at sameValues
            rw [sameValues]
          · apply Agree.advance_bind
            have initial : SameIfAlike use otherUse ([] : List (String × Json)) [] := fun _ => rfl
            apply (agree_members _ budget otherBudget initial).bind
            · intro fields otherFields sameFields
              apply Agree.pure
              intro alike
              rw [sameFields alike]
            · intro fields otherFields key otherKey sameFields sameKey
              apply Agree.colon_bind
              apply (ih otherDepth).bind
              intro json otherJson sameJson
              apply Agree.pure
              intro alike
              rw [sameKey alike, sameJson alike, sameFields alike]
          · exact agree_scalar

theorem agree_skipValue (budget otherBudget depth : Nat) :
    Agree (fun _ _ => True) (skipValue budget : Reader Cause Unit)
      (value use otherBudget depth : Reader Other Json) := by
  rw [← bind_pure (value use otherBudget depth)]
  apply (agree_value budget otherBudget budget depth).bind
  intro _ _ _
  exact Agree.pure trivial

end Uses

theorem read_of_run {reader : Nat → Reader Cause α} {text : String} {result : α}
    (ran : run reader text = .ok result) :
    ∃ rest, reader text.length text.toList = .ok (result, rest) := by
  unfold run StateT.run at ran
  cases read : reader text.length text.toList with
  | error => simp [read, bind, Except.bind] at ran
  | ok pair =>
      simp only [read, bind, Except.bind] at ran
      split at ran
      · cases ran
        exact ⟨_, rfl⟩
      · cases ran

theorem Agree.run {related : α → β → Prop} {left : Nat → Reader Cause α}
    {right : Nat → Reader Other β} (agree : ∀ budget, Agree related (left budget) (right budget))
    {text : String} {first : α} {second : β} (ran : run left text = .ok first)
    (otherRan : run right text = .ok second) : related first second := by
  rcases read_of_run ran with ⟨rest, read⟩
  rcases read_of_run otherRan with ⟨otherRest, otherRead⟩
  exact (agree text.length _ _ _ _ _ read otherRead).2

end Reader
end Json
end AccessAudit
