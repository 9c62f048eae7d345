import Mathlib.Data.List.ReduceOption
import QuizClient.Console.Reader
import QuizClient.Proofs.Commands
import QuizClient.Proofs.Lines

/-!
# What is heard of a stream

A stream of bytes comes in portions of any size, which may end inside a character or between
the two bytes that end a line.  What the reader hands over does not depend on where the
portions end.  It is told line by line: the trimmed text of a line is a frame unless it is
blank or begins with an exclamation mark, and a command if it begins with one and is
understood.  A line that is no text is the last one that counts, and what follows it is not
looked at.

## Main definitions

* `Text.legible` — the texts of the lines up to the first that is none.
* `Line.frameIn?`, `Line.commandIn?` — what the text of a line is heard as.
* `Reader.hear` — all that a reader hands over of a stream.

## Main results

* `splitOn_cutLinesFrom`, `cutLinesFrom_append` — lines are cut at line feeds, wherever the
  portions end.
* `ofUtf8?_eq_some_iff`, `ofUtf8?_concat_carriageReturn` — texts in bytes.
* `inputsOfLines_eq` — what lines give to a host.
* `feeds_finish` — what portions give to a host.
* `streams_heard` — **what is heard of a stream.**
-/

namespace QuizClient

/-! ### Cutting lines -/

namespace Text

/-- What is held behind the last line feed holds none. -/
theorem lineFeed_notMem_cutLinesFrom {held : List UInt8} (h : lineFeed ∉ held)
    (bs : List UInt8) : lineFeed ∉ (cutLinesFrom held bs).2 := by
  induction bs generalizing held with
  | nil => simpa [cutLinesFrom] using h
  | cons b bs ih =>
    unfold cutLinesFrom
    split
    · exact ih List.not_mem_nil
    · next hb => exact ih (by simp [Ne.symm hb, h])

/-- **Lines are cut at line feeds.** -/
theorem splitOn_cutLinesFrom {held : List UInt8} (h : lineFeed ∉ held) (bs : List UInt8) :
    (held.reverse ++ bs).splitOn lineFeed
      = (cutLinesFrom held bs).1 ++ [(cutLinesFrom held bs).2] := by
  induction bs generalizing held with
  | nil =>
    rw [List.append_nil]
    exact List.splitOn_eq_singleton (by simpa using h)
  | cons b bs ih =>
    unfold cutLinesFrom
    split
    · next hb =>
      have hline : held.reverse.splitOn lineFeed = [held.reverse] :=
        List.splitOn_eq_singleton (by simpa using h)
      have hsplit : (held.reverse ++ b :: bs).splitOn lineFeed
          = held.reverse.splitOn lineFeed ++ bs.splitOn lineFeed :=
        List.splitOnP_append_cons _ _ (by simp [hb])
      have hrest := ih List.not_mem_nil
      rw [List.reverse_nil, List.nil_append] at hrest
      rw [hsplit, hline, hrest]
      rfl
    · next hb =>
      have hheld : lineFeed ∉ b :: held := by simp [Ne.symm hb, h]
      have hgoesOn := ih hheld
      rw [List.reverse_cons, List.append_assoc, List.singleton_append] at hgoesOn
      exact hgoesOn

/-- **Lines are cut the same wherever a portion ends.** -/
theorem cutLinesFrom_append (held xs ys : List UInt8) :
    cutLinesFrom held (xs ++ ys) =
      ((cutLinesFrom held xs).1 ++ (cutLinesFrom (cutLinesFrom held xs).2.reverse ys).1,
        (cutLinesFrom (cutLinesFrom held xs).2.reverse ys).2) := by
  induction xs generalizing held with
  | nil => simp [cutLinesFrom]
  | cons x xs ih =>
    by_cases hx : x = lineFeed
    · simp [cutLinesFrom, hx, ih]
    · simp [cutLinesFrom, hx, ih]

/-- **The pieces of a stream begin with the lines of its first portion**, and what is held of
that goes on. -/
theorem splitOn_append (xs ys : List UInt8) :
    (xs ++ ys).splitOn lineFeed =
      (cutLines xs).1 ++ ((cutLines xs).2 ++ ys).splitOn lineFeed := by
  have hnone : lineFeed ∉ ([] : List UInt8) := List.not_mem_nil
  have hheld : lineFeed ∉ (cutLines xs).2.reverse := by
    rw [List.mem_reverse]
    exact lineFeed_notMem_cutLinesFrom hnone xs
  have hall := splitOn_cutLinesFrom hnone (xs ++ ys)
  have hrest := splitOn_cutLinesFrom hheld ys
  rw [List.reverse_reverse] at hrest
  rw [List.reverse_nil, List.nil_append, cutLinesFrom_append] at hall
  rw [hall, hrest, List.append_assoc]
  rfl

/-! ### Texts in bytes -/

theorem toUtf8_append (s t : String) : toUtf8 (s ++ t) = toUtf8 s ++ toUtf8 t := by
  simp [toUtf8_eq]

/-- **Bytes write the text that is written by them.** -/
theorem ofUtf8?_eq_some_iff {bytes : List UInt8} {s : String} :
    ofUtf8? bytes = some s ↔ toUtf8 s = bytes := by
  constructor
  · intro h
    unfold ofUtf8? String.fromUTF8? at h
    split at h
    · next hvalid =>
      obtain rfl := Option.some.inj h
      rw [toUtf8_eq_data]
      rfl
    · cases h
  · rintro rfl
    exact ofUtf8?_toUtf8 s

theorem toUtf8_carriageReturn : toUtf8 "\r" = [carriageReturn] := by
  rw [toUtf8_eq]
  decide

/-- Only the character itself ends in the byte of the carriage return. -/
theorem eq_concat_of_toUtf8 {s : String} {body : List UInt8}
    (h : toUtf8 s = body ++ [carriageReturn]) : ∃ t, s = t ++ "\r" ∧ toUtf8 t = body := by
  rw [toUtf8_eq] at h
  rcases List.eq_nil_or_concat s.toList with hnil | ⟨cs, c, hcs⟩
  · simp [hnil] at h
  rw [List.concat_eq_append] at hcs
  rw [hcs, List.flatMap_append, List.flatMap_singleton] at h
  have hlast : carriageReturn ∈ String.utf8EncodeChar c := by
    have hne : String.utf8EncodeChar c ≠ [] := by
      rw [← List.length_pos_iff, String.length_utf8EncodeChar]
      exact c.utf8Size_pos
    have hget := congrArg List.getLast? h
    rw [List.getLast?_concat, List.getLast?_append_of_ne_nil _ hne] at hget
    exact List.mem_of_getLast? hget
  have hc : c = '\r' := by
    have hbyte : carriageReturn.toNat = 13 := rfl
    have hcode : '\r'.toNat = 13 := rfl
    rcases toNat_of_mem_utf8EncodeChar hlast with hsame | hhigh
    · exact Char.toNat_inj.mp (by omega)
    · omega
  subst hc
  refine ⟨String.ofList cs, ?_, ?_⟩
  · rw [← String.toList_inj, hcs]
    simp
  · have hencode : String.utf8EncodeChar '\r' = [carriageReturn] := by decide
    rw [hencode] at h
    rw [toUtf8_eq, String.toList_ofList]
    exact List.append_cancel_right h

/-- **A carriage return at the end of some bytes is one at the end of their text.** -/
theorem ofUtf8?_concat_carriageReturn (body : List UInt8) :
    ofUtf8? (body ++ [carriageReturn]) = (ofUtf8? body).map (· ++ "\r") := by
  apply Option.ext
  intro s
  rw [ofUtf8?_eq_some_iff, Option.map_eq_some_iff]
  constructor
  · intro h
    obtain ⟨t, rfl, ht⟩ := eq_concat_of_toUtf8 h
    exact ⟨t, ofUtf8?_eq_some_iff.mpr ht, rfl⟩
  · rintro ⟨t, ht, rfl⟩
    rw [toUtf8_append, ofUtf8?_eq_some_iff.mp ht, toUtf8_carriageReturn]

/-- A text with the blanks that trimming drops. -/
theorem exists_pad (cs : List Char) :
    ∃ w w', Blank w ∧ Blank w' ∧ cs = w ++ trimChars cs ++ w' := by
  refine ⟨cs.takeWhile isBlank, ((cs.dropWhile isBlank).reverse.takeWhile isBlank).reverse,
    ?_, ?_, ?_⟩
  · intro c hc
    exact List.mem_takeWhile_imp hc
  · intro c hc
    exact List.mem_takeWhile_imp (List.mem_reverse.mp hc)
  · rw [trimChars, List.append_assoc, ← List.reverse_append, List.takeWhile_append_dropWhile,
      List.reverse_reverse, List.takeWhile_append_dropWhile]

/-- A blank behind a text is trimmed with the others. -/
theorem trimChars_concat {b : Char} (hb : isBlank b = true) (cs : List Char) :
    trimChars (cs ++ [b]) = trimChars cs := by
  obtain ⟨w, w', hw, hw', hcs⟩ := exists_pad cs
  have hback : Blank (w' ++ [b]) :=
    List.forall_mem_append.mpr ⟨hw', List.forall_mem_singleton.mpr hb⟩
  have hpad := trimChars_pad hw (trimmed_trimChars cs) hback
  rw [← List.append_assoc, ← hcs] at hpad
  exact hpad

/-- Whether a carriage return belongs to the end of a line or to the line makes no difference
to its trimmed text. -/
theorem trim_lineOfBytes? (line : List UInt8) :
    (lineOfBytes? line).map trim = (ofUtf8? line).map trim := by
  unfold lineOfBytes? dropReturn
  split
  · next hlast =>
    have hline := List.dropLast_append_getLast? carriageReturn hlast
    conv_rhs => rw [← hline, ofUtf8?_concat_carriageReturn, Option.map_map]
    congr 1
    funext s
    rw [Function.comp_apply, trim, trim, String.toList_append]
    congr 1
    exact (trimChars_concat (by decide) s.toList).symm
  · rfl

/-- The texts of the lines up to the first that is none. -/
def legible (lines : List (List UInt8)) : List String :=
  ((lines.map ofUtf8?).takeWhile (·.isSome)).reduceOption

theorem legible_cons_none {line : List UInt8} (h : ofUtf8? line = none)
    (lines : List (List UInt8)) : legible (line :: lines) = [] := by
  simp [legible, h]

theorem legible_cons_some {line : List UInt8} {s : String} (h : ofUtf8? line = some s)
    (lines : List (List UInt8)) : legible (line :: lines) = s :: legible lines := by
  simp [legible, h]

/-- What follows a line that is no text does not count. -/
theorem legible_append_none {line : List UInt8} (h : ofUtf8? line = none)
    (earlier later : List (List UInt8)) : legible (earlier ++ line :: later) = legible earlier := by
  induction earlier with
  | nil => exact legible_cons_none h later
  | cons l earlier ih =>
    cases hl : ofUtf8? l with
    | none => rw [List.cons_append, legible_cons_none hl, legible_cons_none hl]
    | some s => rw [List.cons_append, legible_cons_some hl, legible_cons_some hl, ih]

/-- An empty line behind others is heard as nothing. -/
theorem flatMap_legible_concat_nil {α : Type} {f : String → List α} (h : f "" = [])
    (lines : List (List UInt8)) :
    (legible (lines ++ [[]])).flatMap f = (legible lines).flatMap f := by
  induction lines with
  | nil =>
    have hempty : ofUtf8? [] = some "" := ofUtf8?_eq_some_iff.mpr (toUtf8_eq "")
    rw [List.nil_append, legible_cons_some hempty]
    simp [legible, h]
  | cons l lines ih =>
    cases hl : ofUtf8? l with
    | none => rw [List.cons_append, legible_cons_none hl, legible_cons_none hl]
    | some s =>
      rw [List.cons_append, legible_cons_some hl, legible_cons_some hl, List.flatMap_cons,
        List.flatMap_cons, ih]

end Text

open Text

/-! ### What a line is heard as -/

/-- The frame that reaches a host. -/
def Input.frame? : Input → Option String
  | .frame text => some text
  | _ => none

/-- The command that reaches a host. -/
def Input.command? : Input → Option Command
  | .command c => some c
  | _ => none

namespace Line

/-- The frame that the text of a line is heard as: its trimmed text, if there is something left
of it that does not begin with an exclamation mark. -/
def frameIn? (s : String) : Option String :=
  if trim s = "" ∨ (trim s).toList.head? = some '!' then none else some (trim s)

/-- The command that the text of a line is heard as: what is behind the exclamation mark of its
trimmed text, if it is understood. -/
def commandIn? (s : String) : Option Command :=
  match (trim s).toList with
  | '!' :: cs => (Command.ofText (String.ofList cs)).toOption
  | _ => none

/-- What the text of a line gives to a host. -/
def inputsIn (s : String) : List Input :=
  ((frameIn? s).map Input.frame).toList ++ ((commandIn? s).map Input.command).toList

/-- What a line is heard as depends on its trimmed text only. -/
theorem inputsIn_congr {s t : String} (h : trim s = trim t) : inputsIn s = inputsIn t := by
  simp only [inputsIn, frameIn?, commandIn?, h]

/-- What the text of a line gives to a host is what it says. -/
theorem inputsIn_eq (s : String) :
    inputsIn s =
      match ofText s with
      | .ok (some (.frame text)) => [.frame text]
      | .ok (some (.command c)) => [.command c]
      | _ => [] := by
  have htrim : (trim s).toList = trimChars s.toList := String.toList_ofList ..
  have hempty : trim s = "" ↔ trimChars s.toList = [] := by
    rw [← String.toList_eq_nil_iff, htrim]
  simp only [inputsIn, frameIn?, commandIn?, hempty, htrim]
  rw [ofText]
  cases hcs : trimChars s.toList with
  | nil => rfl
  | cons c cs =>
    by_cases hmark : c = '!'
    · subst hmark
      cases hc : Command.ofText (String.ofList cs) with
      | error e => simp [hc, Except.toOption, Functor.map, Except.map]
      | ok command => simp [hc, Except.toOption, Functor.map, Except.map]
    · have hframe : trim s = String.ofList (c :: cs) := by rw [trim, hcs]
      simp [hmark, hframe]

theorem frames_inputsIn (s : String) :
    (inputsIn s).filterMap Input.frame? = (frameIn? s).toList := by
  rw [inputsIn]
  cases frameIn? s <;> cases commandIn? s <;> rfl

theorem commands_inputsIn (s : String) :
    (inputsIn s).filterMap Input.command? = (commandIn? s).toList := by
  rw [inputsIn]
  cases frameIn? s <;> cases commandIn? s <;> rfl

/-- What is picked from the inputs of some texts is what each of the texts is heard as. -/
theorem filterMap_inputsIn {α : Type} {pick : Input → Option α} {heard : String → Option α}
    (h : ∀ s, (inputsIn s).filterMap pick = (heard s).toList) (texts : List String) :
    (texts.flatMap inputsIn).filterMap pick = texts.filterMap heard := by
  rw [List.filterMap_flatMap, List.filterMap_eq_flatMap_toList]
  simp only [h]

/-- A text is heard as nothing if it is blank or a command that is not understood, and only
then. -/
theorem inputsIn_eq_nil_iff (s : String) :
    inputsIn s = [] ↔ Blank s.toList ∨ ∃ err, ofText s = .error err := by
  rw [inputsIn_eq, ← ofText_eq_none_iff]
  cases ofText s with
  | error err => exact iff_of_true rfl (.inr ⟨err, rfl⟩)
  | ok x =>
    cases x with
    | none => exact iff_of_true rfl (.inl rfl)
    | some l => cases l <;> simp

end Line

/-- What a line that is a text gives to a host, in front of the others. -/
theorem inputsOfLines_cons {line : List UInt8} {s : String} (h : lineOfBytes? line = some s)
    (lines : List (List UInt8)) :
    inputsOfLines (line :: lines) =
      (Line.inputsIn s ++ (inputsOfLines lines).1, (inputsOfLines lines).2) := by
  rw [Line.inputsIn_eq]
  simp only [inputsOfLines, h]
  cases Line.ofText s with
  | error e => rfl
  | ok x =>
    cases x with
    | none => rfl
    | some l => cases l <;> rfl

/-- **What lines give to a host**, with the end of the input behind them. -/
theorem inputsOfLines_eq (lines : List (List UInt8)) :
    (inputsOfLines lines).1 ++ (if (inputsOfLines lines).2 then [.framesClosed] else []) =
      (legible lines).flatMap Line.inputsIn ++ [.framesClosed] := by
  induction lines with
  | nil => rfl
  | cons line lines ih =>
    have htrim := trim_lineOfBytes? line
    cases hl : lineOfBytes? line with
    | none =>
      have hnone : ofUtf8? line = none := by simpa [hl] using htrim.symm
      rw [legible_cons_none hnone, inputsOfLines, hl]
      rfl
    | some s =>
      obtain ⟨t, ht, hsame⟩ : ∃ t, ofUtf8? line = some t ∧ trim t = trim s := by
        simpa [hl, Option.map_eq_some_iff] using htrim.symm
      rw [legible_cons_some ht, inputsOfLines_cons hl, List.flatMap_cons, Line.inputsIn_congr hsame,
        List.append_assoc, List.append_assoc, ih]

/-- Behind a line that is no text nothing counts. -/
theorem inputsOfLines_append (xs ys : List (List UInt8)) :
    inputsOfLines (xs ++ ys) =
      if (inputsOfLines xs).2 then
        ((inputsOfLines xs).1 ++ (inputsOfLines ys).1, (inputsOfLines ys).2)
      else inputsOfLines xs := by
  induction xs with
  | nil => simp [inputsOfLines]
  | cons line xs ih =>
    cases hl : lineOfBytes? line with
    | none => simp [inputsOfLines, hl]
    | some s =>
      rw [List.cons_append, inputsOfLines_cons hl, inputsOfLines_cons hl, ih]
      split
      · simp
      · rfl

/-! ### Portions -/

namespace Reader

/-- Bytes arrive in portions. -/
def feeds (r : Reader) : List (List UInt8) → Reader × List Input
  | [] => (r, [])
  | chunk :: chunks =>
    let (r, inputs) := r.feed chunk
    let (r, more) := r.feeds chunks
    (r, inputs ++ more)

/-- All that a reader hands over of a stream that arrives in portions and then ends. -/
def hear (chunks : List (List UInt8)) : List Input :=
  let (r, inputs) := fresh.feeds chunks
  inputs ++ r.finish.2

@[simp] theorem feeds_nil (r : Reader) : r.feeds [] = (r, []) := rfl

theorem feeds_cons (r : Reader) (chunk : List UInt8) (chunks : List (List UInt8)) :
    r.feeds (chunk :: chunks) =
      (((r.feed chunk).1.feeds chunks).1,
        (r.feed chunk).2 ++ ((r.feed chunk).1.feeds chunks).2) := rfl

/-- Once the input has ended nothing is handed over. -/
theorem feeds_of_ended {r : Reader} (h : r.going = false) (chunks : List (List UInt8)) :
    r.feeds chunks = (r, []) := by
  induction chunks with
  | nil => rfl
  | cons chunk chunks ih =>
    have hfeed : r.feed chunk = (r, []) := by simp [feed, h]
    rw [feeds_cons, hfeed, ih]
    rfl

theorem finish_of_ended {r : Reader} (h : r.going = false) : r.finish = (r, []) := by
  simp [finish, h]

/-- What the end of the input gives to a host: what is held is the last line. -/
theorem finish_eq (held : List UInt8) :
    (⟨held, true⟩ : Reader).finish.2 =
      (legible [held]).flatMap Line.inputsIn ++ [.framesClosed] := by
  rw [← inputsOfLines_eq]
  by_cases hheld : held = []
  · subst hheld
    have hempty : lineOfBytes? [] = some "" := ofUtf8?_eq_some_iff.mpr (toUtf8_eq "")
    have hblank : inputsOfLines [[]] = ([], true) := by
      rw [inputsOfLines_cons hempty]
      rfl
    rw [hblank]
    rfl
  · simp only [finish, if_true, if_neg hheld]
    split <;> simp

/-- **What portions and the end of the input give to a host**, behind what is held of a line:
the same as their lines at once. -/
theorem feeds_finish {held : List UInt8} (h : lineFeed ∉ held) (chunks : List (List UInt8)) :
    ((⟨held, true⟩ : Reader).feeds chunks).2 ++ ((⟨held, true⟩ : Reader).feeds chunks).1.finish.2 =
      (legible ((held ++ chunks.flatten).splitOn lineFeed)).flatMap Line.inputsIn
        ++ [.framesClosed] := by
  induction chunks generalizing held with
  | nil =>
    rw [List.flatten_nil, List.append_nil, List.splitOn_eq_singleton h, feeds_nil, ← finish_eq]
    rfl
  | cons chunk chunks ih =>
    have hrest : lineFeed ∉ (cutLines (held ++ chunk)).2 :=
      lineFeed_notMem_cutLinesFrom List.not_mem_nil _
    have hfeed : (⟨held, true⟩ : Reader).feed chunk =
        (⟨(cutLines (held ++ chunk)).2, (inputsOfLines (cutLines (held ++ chunk)).1).2⟩,
          (inputsOfLines (cutLines (held ++ chunk)).1).1) := rfl
    rw [← inputsOfLines_eq, List.flatten_cons, ← List.append_assoc, splitOn_append,
      inputsOfLines_append, feeds_cons, hfeed]
    cases hgoing : (inputsOfLines (cutLines (held ++ chunk)).1).2 with
    | true =>
      rw [if_pos rfl, List.append_assoc, List.append_assoc, inputsOfLines_eq, ih hrest]
    | false =>
      -- a line among the finished ones is no text, and no other is looked at
      rw [feeds_of_ended rfl, finish_of_ended rfl]
      simp [hgoing]

/-! ### The main result -/

/-- **What is heard of a stream**, whatever portions it arrives in.  Its lines are what stands
between its line feeds, what stands behind the last of them too; those count that come before
the first that is no text.  The frames are the trimmed texts of these lines that hold something
and do not begin with an exclamation mark, the commands are what the others that hold something
are understood as, both in order.  A blank line and a command that is not understood give
nothing, every other line gives something, and none depends on another.  Behind them the input
is closed.  A line feed at the end of a stream makes no difference. -/
theorem streams_heard (chunks : List (List UInt8)) :
    let lines := chunks.flatten.splitOn lineFeed
    let texts := legible lines
    hear chunks = texts.flatMap Line.inputsIn ++ [.framesClosed] ∧
    (hear chunks).filterMap Input.frame? = texts.filterMap Line.frameIn? ∧
    (hear chunks).filterMap Input.command? = texts.filterMap Line.commandIn? ∧
    (∀ s, Line.inputsIn s = [] ↔ Blank s.toList ∨ ∃ err, Line.ofText s = .error err) ∧
    (∀ earlier line later, lines = earlier ++ line :: later → ofUtf8? line = none →
      hear chunks = (legible earlier).flatMap Line.inputsIn ++ [.framesClosed]) ∧
    hear (chunks ++ [[lineFeed]]) = hear chunks := by
  intro lines texts
  have hheard : ∀ chunks, hear chunks =
      (legible (chunks.flatten.splitOn lineFeed)).flatMap Line.inputsIn ++ [.framesClosed] :=
    fun chunks => feeds_finish List.not_mem_nil chunks
  refine ⟨hheard chunks, ?_, ?_, Line.inputsIn_eq_nil_iff, ?_, ?_⟩
  · rw [hheard chunks, List.filterMap_append, Line.filterMap_inputsIn Line.frames_inputsIn]
    exact List.append_nil _
  · rw [hheard chunks, List.filterMap_append, Line.filterMap_inputsIn Line.commands_inputsIn]
    exact List.append_nil _
  · intro earlier line later hlines hnone
    rw [hheard chunks, ← legible_append_none hnone earlier later, ← hlines]
  · have hblank : Line.inputsIn "" = [] := rfl
    rw [hheard, hheard, List.flatten_append, List.flatten_singleton]
    have hsplit : (chunks.flatten ++ [lineFeed]).splitOn lineFeed = lines ++ [[]] :=
      List.splitOnP_append_cons _ _ (beq_self_eq_true _)
    rw [hsplit, flatMap_legible_concat_nil hblank]

/-- Portions that end between a carriage return and its line feed and inside a character, with
a blank line, a command that is not understood and a last line without an end. -/
example :
    hear [[0x21, 0x62, 0x75, 0x7A, 0x7A, 0x0D], [0x0A, 0x20, 0x0A, 0x21, 0x78, 0x0A, 0xC3],
        [0xA9]] =
      [.command (.act (.buzz false)), .frame "é", .framesClosed] := by decide +kernel

end Reader

end QuizClient
