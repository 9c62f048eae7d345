import QuizClient.Proofs.Lines

/-!
# Frames can be told apart

A frame says of itself what it means.  It is one JSON object without a control character:
first the phase that the action is meant for, by its number, and behind it the fields of the
action under names that no other action uses.  Whatever a player types stands in a string
that gives the characters back one by one, so whoever reads a frame finds the phase and the
action again, and two frames are the same only if both are.

## Main definitions

* `Action.fields` — what a reader of a frame finds of an action.
* `Action.ofFields?`, `Action.ofFrame?` — the action that is found, alone and with its phase.
* `tokenOfFrame?` — the token that is found.

## Main results

* `Action.ofText_frame`, `ofText_tokenFrame` — what a reader of a frame finds.
* `Action.ofFields?_fields` — the fields of an action give the action back.
* `frames_legible` — **every frame is read back, and tells what it was written for.**
-/

namespace QuizClient

open Json

/-! ### What a frame holds -/

/-- What a reader of a frame finds of an action: its fields, in order, with their values. -/
def Action.fields : Action → List (Option String × Draft)
  | pick column row =>
    [(some "topicIdx", .number (.integer column.toNat)),
      (some "valIdx", .number (.integer row.toNat))]
  | buzz pass => [(some "isPass", .bool pass)]
  | answer text => [(some "answer", .string (some text))]
  | wager amount => [(some "wager", .number (.integer amount.toInt))]
  | confirm agree => [(some "confirm", .bool agree)]
  | dispute overturn => [(some "dispute", .bool overturn)]
  | protest player => [(some "protestFor", .string (some player))]
  | pause on => [(some "pause", .bool on)]

theorem Action.draftMembers_members (a : Action) : Value.draftMembers a.members = a.fields := by
  cases a <;> rfl

/-- **What a reader of a frame finds**: one object, in which the phase comes first and the
fields of the action follow, and nothing behind it. -/
theorem Action.ofText_frame (p : Phase) (a : Action) :
    Draft.ofText (a.frame p)
      = (.object ((some "state", .number (.integer p.code)) :: a.fields), true) := by
  rw [frame, (a.frame_fits p).ofText_text, ← draftMembers_members]
  rfl

theorem ofText_tokenFrame (token : String) :
    Draft.ofText (tokenFrame token) = (.object [(some "token", .string (some token))], true) := by
  rw [tokenFrame, (tokenFrame_fits token).ofText_text]
  rfl

/-! ### Reading it back -/

/-- The action that some fields state: each action has names of its own. -/
def Action.ofFields? : List (Option String × Draft) → Option Action
  | [(some "topicIdx", .number (.integer column)), (some "valIdx", .number (.integer row))] =>
    some (.pick (.ofNat column.toNat) (.ofNat row.toNat))
  | [(some "isPass", .bool pass)] => some (.buzz pass)
  | [(some "answer", .string (some text))] => some (.answer text)
  | [(some "wager", .number (.integer amount))] => some (.wager (.ofInt amount))
  | [(some "confirm", .bool agree)] => some (.confirm agree)
  | [(some "dispute", .bool overturn)] => some (.dispute overturn)
  | [(some "protestFor", .string (some player))] => some (.protest player)
  | [(some "pause", .bool on)] => some (.pause on)
  | _ => none

/-- The phase and the action that a frame states. -/
def Action.ofFrame? (frame : String) : Option (Phase × Action) :=
  match Draft.ofText frame with
  | (.object ((some "state", .number (.integer code)) :: fields), true) => do
    let p ← Phase.ofCode? code.toNat
    let a ← ofFields? fields
    pure (p, a)
  | _ => none

/-- The token that a frame states. -/
def tokenOfFrame? (frame : String) : Option String :=
  match Draft.ofText frame with
  | (.object [(some "token", .string (some token))], true) => some token
  | _ => none

/-- **The fields of an action give the action back.** -/
theorem Action.ofFields?_fields (a : Action) : ofFields? a.fields = some a := by
  cases a with
  | pick column row =>
    simp only [fields, ofFields?, Int.toNat_natCast, UInt64.ofNat_toNat]
  | wager amount => simp only [fields, ofFields?, Int64.ofInt_toInt]
  | _ => rfl

theorem Action.ofFrame?_frame (p : Phase) (a : Action) : ofFrame? (a.frame p) = some (p, a) := by
  simp only [ofFrame?, ofText_frame, Int.toNat_natCast, Phase.ofCode?_code, ofFields?_fields]
  rfl

theorem tokenOfFrame?_tokenFrame (token : String) :
    tokenOfFrame? (tokenFrame token) = some token := by
  simp only [tokenOfFrame?, ofText_tokenFrame]

/-- The frame with the token states no action: its first member is not the phase. -/
theorem Action.ofFrame?_tokenFrame (token : String) : ofFrame? (tokenFrame token) = none := by
  rw [ofFrame?, ofText_tokenFrame]
  rfl

/-! ### The main result -/

/-- **Every frame is read back, and tells what it was written for.**  The frame of an action
holds no control character and is one JSON object: first the phase by its number, then the
fields of the action with their values, and nothing else.  The phase and the action are read
off it, so frames written for different phases or actions are different.  The same holds of
the frame with the token, which states no action. -/
theorem frames_legible :
    (∀ (p : Phase) (a : Action),
      Text.Plain (a.frame p).toList ∧
      Draft.ofText (a.frame p)
        = (.object ((some "state", .number (.integer p.code)) :: a.fields), true) ∧
      Action.ofFrame? (a.frame p) = some (p, a)) ∧
    (∀ (p q : Phase) (a b : Action), (p, a) ≠ (q, b) → a.frame p ≠ b.frame q) ∧
    (∀ token : String,
      Text.Plain (tokenFrame token).toList ∧
      Draft.ofText (tokenFrame token)
        = (.object [(some "token", .string (some token))], true) ∧
      tokenOfFrame? (tokenFrame token) = some token ∧
      Action.ofFrame? (tokenFrame token) = none) ∧
    ∀ s t : String, s ≠ t → tokenFrame s ≠ tokenFrame t := by
  refine ⟨fun p a => ?_, fun p q a b hne heq => hne ?_, fun token => ?_, fun s t hne heq => hne ?_⟩
  · exact ⟨a.frame_plain p, a.ofText_frame p, a.ofFrame?_frame p⟩
  · -- what is read off the one frame is read off the other
    have hread : some (p, a) = some (q, b) := by
      rw [← a.ofFrame?_frame p, heq, b.ofFrame?_frame q]
    exact Option.some.inj hread
  · exact ⟨tokenFrame_plain token, ofText_tokenFrame token, tokenOfFrame?_tokenFrame token,
      Action.ofFrame?_tokenFrame token⟩
  · have hread : some s = some t := by
      rw [← tokenOfFrame?_tokenFrame s, heq, tokenOfFrame?_tokenFrame t]
    exact Option.some.inj hread

/-- Quotation marks, backslashes and line ends are escaped. -/
example : (Action.answer "a \"b\"\\\n").frame .answer
    = "\x7b\"state\":5,\"answer\":\"a \\\"b\\\"\\\\\\n\"\x7d" := by decide +kernel

end QuizClient
