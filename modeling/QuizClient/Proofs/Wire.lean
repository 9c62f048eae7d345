import QuizClient.Envelope
import QuizClient.Proofs.Codecs

/-!
# Snapshots on the wire

What is written of a game and of a player in an envelope is read back as the same game and
the same player, whatever their texts and numbers are, however many players, categories and
clues there are, and whatever else the envelope says, unless it says that the connection is
alive or that something failed.

Times are the exception: they are written as whole seconds, so a time comes back only if it
is a whole number of seconds.  A snapshot that came over the wire has no other times.

## Main definitions

* `Game.times`, `Game.WholeTimes` — the times of a game, all of whole seconds.
* `Envelope.written` — the value that is written as an envelope.
* `SurviveWire` — the snapshots come back from every envelope that tells of them.

## Main results

* `Player.codec_carries`, `Answer.codec_carries`, `Clue.codec_carries`,
  `Category.codec_carries`, `Game.codec_carries` — what is written of each is read back.
* `Envelope.ofText_write` — an envelope with snapshots is read back in its parts.
* `Inbound.wholeTimes_of_update` — a snapshot that was read has times of whole seconds.
* `snapshots_survive` — **snapshots come back from the wire.**
-/

namespace QuizClient

open Json

/-! ### Phases, rounds and times -/

theorem Phase.codec_carries (depth : Nat) (p : Phase) : Phase.codec.Carries depth p := by
  cases p <;> exact ⟨Codec.fits_ofNat (by decide) depth, rfl⟩

theorem Round.codec_carries (depth : Nat) (r : Round) : Round.codec.Carries depth r := by
  cases r <;> exact ⟨Codec.fits_ofNat (by decide) depth, rfl⟩

/-- The time is absent or a whole number of seconds. -/
def Duration.Whole (t : Option Duration) : Prop := ∀ d ∈ t, d.subNanos = 0

instance (t : Option Duration) : Decidable (Duration.Whole t) :=
  inferInstanceAs (Decidable (∀ d ∈ t, d.subNanos = 0))

theorem Duration.seconds_lt (d : Duration) : d.seconds < UInt64.size :=
  Nat.div_lt_of_lt_mul (Nat.mul_comm UInt64.size nanosPerSecond ▸ d.nanos_lt)

/-- A whole number of seconds is that many seconds. -/
theorem Duration.ofSeconds_seconds {d : Duration} (h : d.subNanos = 0) :
    Duration.ofSeconds (UInt64.ofNat d.seconds) = d := by
  have hsplit : nanosPerSecond * d.seconds + d.subNanos = d.nanos := Nat.div_add_mod _ _
  rw [h, Nat.add_zero] at hsplit
  ext
  rw [nanos_ofSeconds, UInt64.toNat_ofNat_of_lt' d.seconds_lt, Nat.mul_comm, hsplit]

theorem Duration.codec_carries (depth : Nat) {t : Option Duration} (h : Duration.Whole t) :
    Duration.codec.Carries depth t := by
  refine Codec.optional_carries (fun d hd => by cases hd) fun d hd => ?_
  have hsub : d.subNanos = 0 := h d hd
  have hnearest : d.roundNearest = d.seconds := by simp [Duration.roundNearest, hsub]
  refine ⟨?_, ?_⟩
  · show (Value.ofInt d.roundNearest).Fits depth
    rw [hnearest]
    exact Codec.fits_ofNat d.seconds_lt depth
  · show Duration.ofSeconds <$> Found.toUnsigned? (.number (.integer d.roundNearest)) = .ok d
    rw [hnearest, Codec.toUnsigned?_ofNat d.seconds_lt]
    exact congrArg Except.ok (Duration.ofSeconds_seconds hsub)

theorem Duration.whole_of_read {v : Value} {t : Option Duration}
    (h : Duration.codec.read v = .ok t) : Duration.Whole t := by
  intro d hd
  cases v with
  | null =>
    cases h
    cases hd
  | _ =>
    obtain ⟨d', hd', rfl⟩ := exists_of_map_eq_ok h
    obtain ⟨n, -, rfl⟩ := exists_of_map_eq_ok hd'
    cases hd
    simp [Duration.subNanos]

/-! ### Records -/

theorem Player.shape_distinct : Player.shape.Distinct := by decide +kernel

theorem Player.codec_carries (p : Player) : Player.codec.Carries 2 p := by
  have hflag := Codec.bool_carries 1
  have hanswer : (Codec.string.orBlank "").Carries 1 p.finalAnswer :=
    Codec.orBlank_carries Codec.string_neverNull (Codec.string_carries 1 _)
  have hprotests : (Codec.bool.dictionary.orBlank .empty).Carries 1 p.finalProtests :=
    Codec.orBlank_carries (Codec.dictionary_neverNull _)
      (Codec.dictionary_carries fun e _ => Codec.bool_carries 0 e.2)
  have h : List.Forall₂ (Member.Returns 1 p) Player.shape.members _ :=
    .cons (Codec.string_carries 1 p.id).member.needed <|
    .cons (Codec.string_carries 1 p.name).member <|
    .cons (Codec.signed_carries 1 p.score).member <|
    .cons (hflag p.mayPick).member <|
    .cons (hflag p.mayBuzz).member <|
    .cons (hflag p.mayAnswer).member <|
    .cons (hflag p.mayWager).member <|
    .cons (hflag p.mayVote).member <|
    .cons (hflag p.mayDispute).member <|
    .cons (Codec.signed_carries 1 p.finalWager).member <|
    .cons hanswer.member <|
    .cons (hflag p.finalCorrect).member <|
    .cons hprotests.member <|
    .cons (hflag p.playAgain).member .nil
  refine Shape.codec_carries Player.shape_distinct h ?_ rfl
  -- each change sets a field of its own
  simp [commute_iff_apply]

theorem Answer.shape_distinct : Answer.shape.Distinct := by decide +kernel

theorem Answer.codec_carries (r : Answer) : Answer.codec.Carries 3 r := by
  have h : List.Forall₂ (Member.Returns 2 r) Answer.shape.members _ :=
    .cons (Codec.orBlank_carries (Shape.codec_neverNull _) r.player.codec_carries).member <|
    .cons (Codec.string_carries 2 r.text).member <|
    .cons (Codec.bool_carries 2 r.correct).member <|
    .cons (Codec.bool_carries 2 r.disputed).member <|
    .cons (Codec.bool_carries 2 r.overturned).member .nil
  refine Shape.codec_carries Answer.shape_distinct h ?_ rfl
  simp [commute_iff_apply]

theorem Clue.shape_distinct : Clue.shape.Distinct := by decide +kernel

theorem Clue.codec_carries (c : Clue) : Clue.codec.Carries 5 c := by
  have htext := Codec.string_carries 4
  have hanswer : ∀ o, Answer.codec.optional.Carries 4 o := by
    intro o
    refine Codec.optional_carries (Shape.codec_neverNull _) fun r _ => ?_
    exact r.codec_carries.mono (by decide)
  have h : List.Forall₂ (Member.Returns 4 c) Clue.shape.members _ :=
    .cons (htext c.category).member <|
    .cons (htext c.comments).member <|
    .cons (htext c.text).member <|
    .cons (htext c.answer).member <|
    .cons (Codec.signed_carries 4 c.value).member <|
    .cons (Codec.bool_carries 4 c.available).member <|
    .cons (hanswer c.current).member <|
    .cons (Codec.listOrBlank_carries fun r _ => r.codec_carries).member <|
    .cons (hanswer c.disputed).member .nil
  refine Shape.codec_carries Clue.shape_distinct h ?_ rfl
  simp [commute_iff_apply]

theorem Category.shape_distinct : Category.shape.Distinct := by decide +kernel

theorem Category.codec_carries (c : Category) : Category.codec.Carries 7 c := by
  have h : List.Forall₂ (Member.Returns 6 c) Category.shape.members _ :=
    .cons (Codec.string_carries 6 c.title).member <|
    .cons (Codec.listOrBlank_carries fun q _ => q.codec_carries).member .nil
  refine Shape.codec_carries Category.shape_distinct h ?_ rfl
  simp [commute_iff_apply]

/-! ### Games -/

namespace Game

/-- The times that a snapshot may set. -/
def times (g : Game) : List (Option Duration) :=
  [g.pickTime, g.buzzTime, g.answerTime, g.wagerTime, g.finalAnswerTime, g.finalWagerTime,
    g.voteTime]

/-- Every time is absent or a whole number of seconds. -/
def WholeTimes (g : Game) : Prop := ∀ t ∈ g.times, Duration.Whole t

instance (g : Game) : Decidable g.WholeTimes :=
  inferInstanceAs (Decidable (∀ t ∈ g.times, Duration.Whole t))

theorem shape_distinct : Game.shape.Distinct := by decide +kernel

/-- A game with times of whole seconds is carried. -/
theorem codec_carries {g : Game} (hg : g.WholeTimes) : Game.codec.Carries 9 g := by
  have hflag := Codec.bool_carries 8
  have htext : ∀ s, (Codec.string.orBlank "").Carries 8 s := by
    intro s
    exact Codec.orBlank_carries Codec.string_neverNull (Codec.string_carries 8 s)
  have htime : ∀ t ∈ g.times, Duration.codec.Carries 8 t := by
    intro t ht
    exact Duration.codec_carries 8 (hg t ht)
  have hplayer : ∀ p : Player, Player.codec.Carries 7 p := by
    intro p
    exact p.codec_carries.mono (by decide)
  have hlast : Player.codec.optional.Carries 8 g.lastToAnswer :=
    Codec.optional_carries (Shape.codec_neverNull _) fun p _ => (hplayer p).mono (by decide)
  have hboard : ∀ b : List Category, (Category.codec.list.orBlank []).Carries 8 b := by
    intro b
    exact Codec.listOrBlank_carries fun c _ => c.codec_carries
  have hclue : ∀ c : Clue, (Clue.codec.orBlank .blank).Carries 8 c := by
    intro c
    exact Codec.orBlank_carries (Shape.codec_neverNull _) (c.codec_carries.mono (by decide))
  have h : List.Forall₂ (Member.Returns 8 g) Game.shape.members _ :=
    .cons (Codec.string_carries 8 g.name).member <|
    .cons (Phase.codec_carries 8 g.phase).member.needed <|
    .cons (Round.codec_carries 8 g.round).member.needed <|
    .cons (Codec.listOrBlank_carries fun p _ => hplayer p).member.needed <|
    .cons (hboard g.firstBoard).member <|
    .cons (hboard g.secondBoard).member <|
    .cons (hclue g.finalClue).member <|
    .cons (hclue g.clue).member <|
    .cons (hflag g.paused).member <|
    .cons (Codec.listOrBlank_carries fun s _ => Codec.string_carries 7 s).member <|
    .cons (htime g.pickTime (by simp [times])).member <|
    .cons (htime g.buzzTime (by simp [times])).member <|
    .cons (htime g.answerTime (by simp [times])).member <|
    .cons (htime g.wagerTime (by simp [times])).member <|
    .cons (htime g.finalAnswerTime (by simp [times])).member <|
    .cons (htime g.finalWagerTime (by simp [times])).member <|
    .cons (htime g.voteTime (by simp [times])).member <|
    .cons (hflag g.startsBuzz).member <|
    .cons (hflag g.startsFinalWager).member <|
    .cons (hflag g.startsFinalAnswer).member <|
    .cons hlast.member.orKey <|
    .cons (htext g.lastAnswer).member <|
    .cons (hflag g.lastCorrect).member <|
    .cons (htext g.previousQuestion).member <|
    .cons (htext g.previousAnswer).member <|
    .cons (htext g.officialAnswer).member <|
    .cons (hflag g.disconnected).member .nil
  refine Shape.codec_carries shape_distinct h ?_ rfl
  simp [commute_iff_apply]

/-! ### Times that were read -/

/-- A field that is no time leaves the times alone. -/
theorem untimed_keeps {α : Type} {c : Codec α} {key : String} {get : Game → α}
    {set : α → Game → Game} (h : ∀ a g, (set a g).times = g.times) :
    (c.member key get set).Keeps WholeTimes := by
  refine Codec.member_keeps fun a g _ hg => ?_
  unfold WholeTimes
  rw [h]
  exact hg

/-- A time that was read is a whole number of seconds, and takes the place of one time. -/
theorem timed_keeps {key : String} {get : Game → Option Duration}
    {set : Option Duration → Game → Game} {i : Nat}
    (h : ∀ a g, (set a g).times = g.times.set i a) :
    (Duration.codec.member key get set).Keeps WholeTimes := by
  refine Codec.member_keeps fun a g ha hg t ht => ?_
  obtain ⟨v, ha⟩ := ha
  rw [h] at ht
  rcases List.mem_or_eq_of_mem_set ht with ht | rfl
  · exact hg t ht
  · exact Duration.whole_of_read ha

theorem keeps_wholeTimes : Game.shape.record.Keeps WholeTimes := by
  have hmembers : shape.members.Forall (Member.Keeps WholeTimes) :=
    ⟨untimed_keeps fun _ _ => rfl,
      .needed (untimed_keeps fun _ _ => rfl),
      .needed (untimed_keeps fun _ _ => rfl),
      .needed (untimed_keeps fun _ _ => rfl),
      untimed_keeps fun _ _ => rfl,
      untimed_keeps fun _ _ => rfl,
      untimed_keeps fun _ _ => rfl,
      untimed_keeps fun _ _ => rfl,
      untimed_keeps fun _ _ => rfl,
      untimed_keeps fun _ _ => rfl,
      timed_keeps (i := 0) fun _ _ => rfl,
      timed_keeps (i := 1) fun _ _ => rfl,
      timed_keeps (i := 2) fun _ _ => rfl,
      timed_keeps (i := 3) fun _ _ => rfl,
      timed_keeps (i := 4) fun _ _ => rfl,
      timed_keeps (i := 5) fun _ _ => rfl,
      timed_keeps (i := 6) fun _ _ => rfl,
      untimed_keeps fun _ _ => rfl,
      untimed_keeps fun _ _ => rfl,
      untimed_keeps fun _ _ => rfl,
      .orKey (untimed_keeps fun _ _ => rfl),
      untimed_keeps fun _ _ => rfl,
      untimed_keeps fun _ _ => rfl,
      untimed_keeps fun _ _ => rfl,
      untimed_keeps fun _ _ => rfl,
      untimed_keeps fun _ _ => rfl,
      untimed_keeps fun _ _ => rfl⟩
  exact Shape.keeps_of_forall (List.forall_iff_forall_mem.mp hmembers)

/-- **A game that was read has times of whole seconds.** -/
theorem wholeTimes_of_read {v : Value} {g : Game} (h : Game.codec.read v = .ok g) :
    g.WholeTimes := by
  have hblank : Game.blank.WholeTimes := by decide
  exact keeps_wholeTimes.ofValue hblank h

end Game

/-! ### Envelopes -/

namespace Envelope

/-- A snapshot that is written in an envelope is kept. -/
theorem kept_draft {v : Value} (h : v.Fits snapshotDepth) (hv : v ≠ .null) :
    kept v.draft = .ok (some v.sorted) := by
  have hsorted := Codec.sorted_ne_null hv
  rw [kept, h.keep?_draft]
  cases hs : v.sorted <;> simp_all

/-- The members of an envelope are its parts. -/
theorem ofDraft_object {code message game player : Draft} {e : Envelope}
    (hcode : code.found >>= Found.toSigned? = .ok e.code)
    (hmessage : message.found >>= Found.toString? = .ok e.message)
    (hgame : kept game = .ok e.game) (hplayer : kept player = .ok e.player) :
    record.ofDraft (.object [(some "code", code), (some "message", message), (some "game", game),
      (some "curPlayer", player)]) = .ok e := by
  have htakes : List.Forall₂ record.Takes
      [("code", code), ("message", message), ("game", game), ("curPlayer", player)]
      [fun t => { t with code := e.code }, fun t => { t with message := e.message },
        fun t => { t with game := e.game }, fun t => { t with player := e.player }] := by
    refine .cons ⟨_, rfl, rfl, fun t => ?_⟩ <| .cons ⟨_, rfl, rfl, fun t => ?_⟩ <|
      .cons ⟨_, rfl, rfl, fun t => ?_⟩ <| .cons ⟨_, rfl, rfl, fun t => ?_⟩ .nil
    · exact congrArg (fun r => (fun a => { t with code := a }) <$> r) hcode
    · exact congrArg (fun r => (fun a => { t with message := a }) <$> r) hmessage
    · exact congrArg (fun r => (fun a => { t with game := a }) <$> r) hgame
    · exact congrArg (fun r => (fun a => { t with player := a }) <$> r) hplayer
  have hkeys : ["code", "message", "game", "curPlayer"].Nodup := by decide
  have hcome : ∀ f ∈ record.fields, f.required = true →
      f.key ∈ ["code", "message", "game", "curPlayer"] := by decide
  exact Record.ofDraft_object htakes hkeys hcome

/-- The value that is written as an envelope. -/
def written (code : Int64) (message : String) (g : Game) (p : Player) : Value :=
  .object [("code", Codec.signed.write code), ("message", Codec.string.write message),
    ("game", Game.codec.write g), ("curPlayer", Player.codec.write p)]

section

variable {g : Game} (hg : g.WholeTimes) (p : Player) (code : Int64) (message : String)

include hg

theorem written_fits : (written code message g p).Fits 10 := by
  refine .object fun e he => ?_
  simp only [List.mem_cons, List.not_mem_nil, or_false] at he
  rcases he with rfl | rfl | rfl | rfl
  · exact (Codec.signed_carries 9 code).fits
  · exact (Codec.string_carries 9 message).fits
  · exact (Game.codec_carries hg).fits
  · exact p.codec_carries.fits.mono (by decide)

theorem ofDraft_written : record.ofDraft (written code message g p).draft = .ok ⟨code, message,
    some (Game.codec.write g).sorted, some (Player.codec.write p).sorted⟩ := by
  have hcode := (Codec.signed_carries 9 code).read
  have hmessage := (Codec.string_carries 9 message).read
  have hgame := kept_draft ((Game.codec_carries hg).fits.mono (by decide))
    (Shape.codec_neverNull _ g)
  have hplayer := kept_draft (p.codec_carries.fits.mono (by decide)) (Shape.codec_neverNull _ p)
  exact ofDraft_object hcode hmessage hgame hplayer

/-- **An envelope with snapshots is read back in its parts**, kept in key order. -/
theorem ofText_write : Envelope.ofText (Envelope.write code message g p) = .ok ⟨code, message,
    some (Game.codec.write g).sorted, some (Player.codec.write p).sorted⟩ := by
  have htext : Draft.ofText (Envelope.write code message g p)
      = ((written code message g p).draft, true) := (written_fits hg p code message).ofText_text
  rw [Envelope.ofText, Draft.readText, htext]
  simp only [ofDraft_written hg]
  rfl

end

/-- A snapshot is read when it is there and can be read. -/
theorem snapshot_eq_ok_iff {α : Type} {c : Codec α} {code : Int64} {key : String}
    {part : Option Value} {a : α} :
    snapshot c code key part = .ok a ↔ ∃ v, part = some v ∧ c.read v = .ok a := by
  cases part with
  | none => exact iff_of_false nofun fun ⟨_, h, _⟩ => by cases h
  | some v => cases hread : c.read v <;> simp [snapshot, hread, Except.mapError]

end Envelope

/-- Codes below those of failures report none, and only one of them is the code of a
snapshot without a message. -/
theorem Status.ofCode_of_lt {code : Int64} (hlow : 0 ≤ code) (hhigh : code < 4400) :
    ∃ s, Status.ofCode code = .ok s ∧ s.failure? = none ∧ (s ≠ .success ↔ code ≠ 200) := by
  have hnonneg : ¬ code < 0 := Int64.not_lt.mpr hlow
  unfold ofCode
  rw [if_neg hnonneg]
  by_cases h200 : code = 200
  · exact ⟨.success, by rw [if_pos h200], rfl, by simp [h200]⟩
  by_cases hinfo : 4100 ≤ code ∧ code ≤ 4399
  · exact ⟨.informational, by rw [if_neg h200, if_pos hinfo], rfl, by simp [h200]⟩
  · exact ⟨.other, by rw [if_neg h200, if_neg hinfo, if_pos hhigh], rfl, by simp [h200]⟩

namespace Inbound

/-- **A snapshot that an envelope tells has times of whole seconds.** -/
theorem wholeTimes_of_update {text : String} {g : Game} {p : Player} {advisory : Option String}
    (h : Inbound.ofText text = .ok (.update g p advisory)) : g.WholeTimes := by
  obtain ⟨e, -, h⟩ := exists_of_bind_eq_ok h
  obtain ⟨s, -, h⟩ := exists_of_bind_eq_ok h
  split at h
  · cases h
  split at h
  · cases h
  split at h
  · cases h
  obtain ⟨g', hg', h⟩ := exists_of_bind_eq_ok h
  obtain ⟨p', -, h⟩ := exists_of_bind_eq_ok h
  cases h
  obtain ⟨v, -, hv⟩ := Envelope.snapshot_eq_ok_iff.mp hg'
  exact Game.wholeTimes_of_read hv

/-- An envelope with snapshots that can be read tells of them, unless it tells of a failure
or that the connection is alive. -/
theorem ofEnvelope_of_snapshots {code : Int64} {message : String} {v w : Value} {s : Status}
    {g : Game} {p : Player} (hs : Status.ofCode code = .ok s) (hfailure : s.failure? = none)
    (hmessage : message ≠ heartbeatMessage) (hgame : Game.codec.read v = .ok g)
    (hplayer : Player.codec.read w = .ok p) :
    Inbound.ofEnvelope ⟨code, message, some v, some w⟩
      = .ok (.update g p (if s ≠ .success ∧ message ≠ "" then some message else none)) := by
  have hpresent : ¬ (s = .other ∧ ((some v).isNone ∨ (some w).isNone)) := by simp
  rw [Inbound.ofEnvelope]
  simp only [hs, hfailure, bind, Except.bind, if_neg hmessage, if_neg hpresent, Envelope.snapshot,
    hgame, hplayer]
  rfl

end Inbound

/-- The snapshots come back from every envelope that neither tells of a failure nor that the
connection is alive, with the message of the envelope unless the code is the plain one. -/
def SurviveWire (g : Game) (p : Player) : Prop :=
  ∀ (code : Int64) (message : String), 0 ≤ code → code < 4400 → message ≠ heartbeatMessage →
    Inbound.ofText (Envelope.write code message g p)
      = .ok (.update g p (if code ≠ 200 ∧ message ≠ "" then some message else none))

theorem Game.WholeTimes.surviveWire {g : Game} (hg : g.WholeTimes) (p : Player) :
    SurviveWire g p := by
  intro code message hlow hhigh hmessage
  obtain ⟨s, hs, hfailure, hsuccess⟩ := Status.ofCode_of_lt hlow hhigh
  have hread := Inbound.ofEnvelope_of_snapshots hs hfailure hmessage (Game.codec_carries hg).read
    p.codec_carries.read
  simp only [hsuccess] at hread
  rw [Inbound.ofText, Envelope.ofText_write hg]
  exact hread

/-- **Snapshots come back from the wire**: any game with times of whole seconds and any
player, and so whatever snapshots were told by a frame. -/
theorem snapshots_survive :
    (∀ (g : Game) (p : Player), g.WholeTimes → SurviveWire g p) ∧
    ∀ (text : String) (g : Game) (p : Player) (advisory : Option String),
      Inbound.ofText text = .ok (.update g p advisory) → SurviveWire g p := by
  refine ⟨fun g p hg => hg.surviveWire p, fun text g p advisory h => ?_⟩
  exact (Inbound.wholeTimes_of_update h).surviveWire p

/-- A game with a time and a name that needs escapes, and the snapshots of a frame that came
with a message. -/
theorem snapshots_of_frame_survive :
    let g : Game := { Game.blank with
      name := "a \"quiz\"\n", phase := .buzz, buzzTime := some (.ofSeconds 15) }
    let text := "\x7b\"code\":4150,\"message\":\"hi\",\"game\":\x7b\"state\":2,\"round\":1," ++
      "\"players\":[],\"pickTimeout\":7\x7d,\"curPlayer\":\x7b\"id\":\"a\"\x7d\x7d"
    let told : Game := { Game.blank with
      phase := .pick, round := .second, pickTime := some (.ofSeconds 7) }
    let player : Player := { Player.blank with id := "a" }
    Inbound.ofText (Envelope.write 4100 "hi" g .blank) = .ok (.update g .blank (some "hi")) ∧
      Inbound.ofText text = .ok (.update told player (some "hi")) ∧
      Inbound.ofText (Envelope.write 200 "hi" told player) = .ok (.update told player none) := by
  intro g text told player
  have hwhole : g.WholeTimes := by decide
  have htext : Inbound.ofText text = .ok (.update told player (some "hi")) := by decide +kernel
  obtain ⟨hsurvive, hread⟩ := snapshots_survive
  refine ⟨?_, htext, ?_⟩
  · exact hsurvive g .blank hwhole 4100 "hi" (by decide) (by decide) (by decide)
  · exact hread text told player (some "hi") htext 200 "hi" (by decide) (by decide) (by decide)

end QuizClient
