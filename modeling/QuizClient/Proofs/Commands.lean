import Mathlib.Data.List.Basic
import Mathlib.Data.List.TakeWhile
import QuizClient.Console.Line

/-!
# Input lines read back

Each thing that a line can say has a plain way to write it, and is read back from it,
whatever blanks stand around it.  This needs the texts in it to be trimmed, for blanks at the
ends of a line are lost, and a frame not to look like a command.  Nothing else is ever read:
what a line says is trimmed, and a line says nothing only if it is blank.

A command is written as its name and, if it takes something, a blank and the rest.  The name
ends at the first blank, so a rest may hold blanks of its own, and exclamation marks and names
of commands too.

## Main definitions

* `Text.Blank`, `Text.Trimmed` — only blanks; no blank at either end.
* `Line.Canonical` — what can be written plainly.
* `Command.Spelled` — a command is written as its name and a rest.

## Main results

* `trimChars_pad`, `trimmed_trimChars`, `trimChars_eq_nil_iff` — what trimming does.
* `natural?_decimal`, `integer?_decimalInt` — numerals are read back.
* `spelled_of_canonical` — how each command is written.
* `lines_read_back` — **lines are read back, and nothing else is read.**
-/

namespace QuizClient

/-! ### Trimming -/

namespace Text

/-- Only blanks. -/
def Blank (cs : List Char) : Prop := ∀ c ∈ cs, isBlank c = true

instance (cs : List Char) : Decidable (Blank cs) := List.decidableBAll _ cs

/-- No blank at either end. -/
def Trimmed (cs : List Char) : Prop :=
  (∀ c ∈ cs.head?, isBlank c = false) ∧ ∀ c ∈ cs.getLast?, isBlank c = false

instance (cs : List Char) : Decidable (Trimmed cs) :=
  @instDecidableAnd _ _ (Option.decidableForallMem cs.head?) (Option.decidableForallMem cs.getLast?)

/-- Blanks in front of a text that does not begin with one are dropped. -/
theorem dropWhile_pad {w cs : List Char} (hw : Blank w) (h : ∀ c ∈ cs.head?, isBlank c = false) :
    (w ++ cs).dropWhile isBlank = cs := by
  rw [List.dropWhile_append_of_pos hw]
  cases cs with
  | nil => rfl
  | cons c cs => exact List.dropWhile_cons_of_neg (by simp [h c rfl])

theorem dropWhile_of_blank {cs : List Char} (h : Blank cs) : cs.dropWhile isBlank = [] := by
  have hpad : (cs ++ []).dropWhile isBlank = [] := dropWhile_pad h nofun
  rwa [List.append_nil] at hpad

theorem blank_reverse {cs : List Char} (h : Blank cs) : Blank cs.reverse := by
  intro c hc
  exact h c (List.mem_reverse.mp hc)

/-- **Blanks around a trimmed text are trimmed.** -/
theorem trimChars_pad {w cs w' : List Char} (hw : Blank w) (h : Trimmed cs) (hw' : Blank w') :
    trimChars (w ++ cs ++ w') = cs := by
  by_cases hcs : cs = []
  · subst hcs
    have hall : Blank (w ++ w') := List.forall_mem_append.mpr ⟨hw, hw'⟩
    simp [trimChars, dropWhile_of_blank hall]
  have hfront : (w ++ (cs ++ w')).dropWhile isBlank = cs ++ w' := by
    refine dropWhile_pad hw ?_
    rw [List.head?_append_of_ne_nil _ hcs]
    exact h.1
  have hback : (w'.reverse ++ cs.reverse).dropWhile isBlank = cs.reverse := by
    refine dropWhile_pad (blank_reverse hw') ?_
    rw [List.head?_reverse]
    exact h.2
  rw [trimChars, List.append_assoc, hfront, List.reverse_append, hback, List.reverse_reverse]

/-- A text is trimmed if its front and its back are. -/
theorem trimmed_append {front back : List Char} (hne : front ≠ []) (hne' : back ≠ [])
    (h : Trimmed front) (h' : Trimmed back) (middle : List Char) :
    Trimmed (front ++ middle ++ back) := by
  constructor
  · rw [List.append_assoc, List.head?_append_of_ne_nil _ hne]
    exact h.1
  · rw [List.getLast?_append_of_ne_nil _ hne']
    exact h'.2

theorem trimChars_of_trimmed {cs : List Char} (h : Trimmed cs) : trimChars cs = cs := by
  have hnone : Blank [] := nofun
  have hpad := trimChars_pad hnone h hnone
  rwa [List.nil_append, List.append_nil] at hpad

theorem head?_dropWhile (cs : List Char) :
    ∀ c ∈ (cs.dropWhile isBlank).head?, isBlank c = false := by
  intro c hc
  have := List.head?_dropWhile_not isBlank cs
  rw [Option.mem_def.mp hc] at this
  simpa using this

/-- **What was trimmed is trimmed.** -/
theorem trimmed_trimChars (cs : List Char) : Trimmed (trimChars cs) := by
  constructor
  · -- what is left when the end is dropped begins as it did before
    intro c hc
    have hprefix : trimChars cs <+: cs.dropWhile isBlank := by
      rw [trimChars, ← List.reverse_suffix, List.reverse_reverse]
      exact List.dropWhile_suffix isBlank
    obtain ⟨rest, hrest⟩ := hprefix
    refine head?_dropWhile cs c ?_
    rw [← hrest, List.head?_append, Option.mem_def.mp hc]
    rfl
  · intro c hc
    rw [trimChars, List.getLast?_reverse] at hc
    exact head?_dropWhile _ c hc

/-- **Nothing is left of a blank text only.** -/
theorem trimChars_eq_nil_iff {cs : List Char} : trimChars cs = [] ↔ Blank cs := by
  constructor
  · intro h
    have hback : Blank (cs.dropWhile isBlank).reverse := by
      rw [trimChars, List.reverse_eq_nil_iff] at h
      exact List.dropWhile_eq_nil_iff.mp h
    have hfront : cs.dropWhile isBlank = [] := by
      cases hd : cs.dropWhile isBlank with
      | nil => rfl
      | cons c ds =>
        have hblank : isBlank c = true := hback c (by simp [hd])
        have hnot : isBlank c = false := head?_dropWhile cs c (by simp [hd])
        rw [hblank] at hnot
        cases hnot
    exact List.dropWhile_eq_nil_iff.mp hfront
  · intro h
    simp [trimChars, dropWhile_of_blank h]

/-! ### Words -/

/-- No blank at all. -/
def Solid (cs : List Char) : Prop := ∀ c ∈ cs, isBlank c = false

instance (cs : List Char) : Decidable (Solid cs) := List.decidableBAll _ cs

theorem Solid.trimmed {cs : List Char} (h : Solid cs) : Trimmed cs :=
  ⟨fun c hc => h c (List.mem_of_mem_head? hc), fun c hc => h c (List.mem_of_getLast? hc)⟩

theorem pieces_of_solid {cs : List Char} (h : Solid cs) : pieces cs = [cs] := by
  induction cs with
  | nil => rfl
  | cons c cs ih =>
    obtain ⟨hc, hcs⟩ := List.forall_mem_cons.mp h
    simp [pieces, hc, ih hcs]

theorem pieces_append_blank {cs : List Char} (h : Solid cs) {b : Char} (hb : isBlank b = true)
    (rest : List Char) : pieces (cs ++ b :: rest) = cs :: pieces rest := by
  induction cs with
  | nil => simp [pieces, hb]
  | cons c cs ih =>
    obtain ⟨hc, hcs⟩ := List.forall_mem_cons.mp h
    simp [pieces, hc, ih hcs]

/-- A text without blanks in front of a blank is the part in front of the first blank. -/
theorem splitFirst_append {name rest : String} (h : Solid name.toList) :
    splitFirst (name ++ " " ++ rest) = (name, rest) := by
  have htake : (name.toList ++ ' ' :: rest.toList).takeWhile (fun c => !isBlank c)
      = name.toList := by
    rw [List.takeWhile_append_of_pos (by simpa [Solid] using h)]
    simp [isBlank]
  have hdrop : (name.toList ++ ' ' :: rest.toList).dropWhile (fun c => !isBlank c)
      = ' ' :: rest.toList := by
    rw [List.dropWhile_append_of_pos (by simpa [Solid] using h)]
    simp [isBlank]
  have hchars : (name ++ " " ++ rest).toList = name.toList ++ ' ' :: rest.toList := by simp
  simp [splitFirst, hchars, htake, hdrop]

theorem splitFirst_of_solid {name : String} (h : Solid name.toList) :
    splitFirst name = (name, "") := by
  have hall : ∀ c ∈ name.toList, !isBlank c := by simpa [Solid] using h
  have htake := List.takeWhile_eq_self_iff.mpr hall
  have hdrop := List.dropWhile_eq_nil_iff.mpr hall
  simp [splitFirst, htake, hdrop]

/-! ### Numerals -/

theorem decimal_ne_nil (n : Nat) : decimal n ≠ [] := Nat.toDigits_ne_nil

theorem decimalInt_ne_nil (i : Int) : decimalInt i ≠ [] := by
  cases i with
  | ofNat n => exact decimal_ne_nil n
  | negSucc n => exact List.cons_ne_nil _ _

theorem ofList_ne_empty {cs : List Char} (h : cs ≠ []) : String.ofList cs ≠ "" :=
  fun heq => h (String.ofList_eq_empty_iff.mp heq)

theorem isDigit_of_mem_decimal {n : Nat} {c : Char} (h : c ∈ decimal n) : c.isDigit = true :=
  Nat.isDigit_of_mem_toDigits (by decide) (by decide) h

/-- A digit is no blank and no sign. -/
theorem not_blank_of_isDigit {c : Char} (h : c.isDigit = true) :
    isBlank c = false ∧ c ≠ '+' ∧ c ≠ '-' := by
  have hlow : 48 ≤ c.toNat ∧ c.toNat ≤ 57 := Char.isDigit_iff_toNat.mp h
  refine ⟨?_, ?_, ?_⟩
  · simp only [isBlank, Bool.or_eq_false_iff, Bool.and_eq_false_iff, decide_eq_false_iff_not,
      beq_eq_false_iff_ne]
    omega
  · rintro rfl
    simp at hlow
  · rintro rfl
    simp at hlow

theorem decimal_solid (n : Nat) : Solid (decimal n) :=
  fun _ hc => (not_blank_of_isDigit (isDigit_of_mem_decimal hc)).1

theorem decimalInt_solid (i : Int) : Solid (decimalInt i) := by
  cases i with
  | ofNat n => exact decimal_solid n
  | negSucc n => exact List.forall_mem_cons.mpr ⟨by decide, decimal_solid (n + 1)⟩

theorem digitsValue?_decimal (n : Nat) : digitsValue? (decimal n) = some n := by
  have hne : (decimal n).isEmpty = false := by
    rw [List.isEmpty_eq_false_iff]
    exact decimal_ne_nil n
  have hall : (decimal n).all Char.isDigit = true :=
    List.all_eq_true.mpr fun _ hc => isDigit_of_mem_decimal hc
  rw [digitsValue?, hne, hall]
  exact congrArg some Nat.ofDigitChars_ten_toDigits

/-- The plain numeral of a number begins with a digit. -/
theorem exists_decimal_eq_cons (n : Nat) : ∃ c cs, decimal n = c :: cs ∧ c ≠ '+' ∧ c ≠ '-' := by
  cases h : decimal n with
  | nil => exact absurd h (decimal_ne_nil n)
  | cons c cs =>
    have hdigit : c.isDigit = true := isDigit_of_mem_decimal (h ▸ List.mem_cons_self)
    exact ⟨c, cs, rfl, (not_blank_of_isDigit hdigit).2⟩

theorem dropPlus_decimal (n : Nat) : dropPlus (decimal n) = decimal n := by
  obtain ⟨c, cs, h, hplus, -⟩ := exists_decimal_eq_cons n
  rw [h]
  unfold dropPlus
  split
  · next heq => exact absurd (List.cons.inj heq).1 hplus
  · rfl

theorem natural?_decimal (n : UInt64) : natural? (String.ofList (decimal n.toNat)) = some n := by
  have hlt : n.toNat < UInt64.size := n.toNat_lt
  simp [natural?, dropPlus_decimal, digitsValue?_decimal, hlt]

theorem integer?_decimalInt (i : Int64) :
    integer? (String.ofList (decimalInt i.toInt)) = some i := by
  have hfits : Int64.minValue.toInt ≤ i.toInt ∧ i.toInt ≤ Int64.maxValue.toInt :=
    ⟨Int64.le_iff_toInt_le.mp (Int64.minValue_le i), Int64.le_iff_toInt_le.mp (Int64.le_maxValue i)⟩
  have hfinish : ∀ x : Option Int, x = some i.toInt → (do
      let k ← x
      if Int64.minValue.toInt ≤ k ∧ k ≤ Int64.maxValue.toInt then some (Int64.ofInt k) else none)
        = some i := by
    rintro _ rfl
    rw [Option.bind_eq_bind, Option.bind_some, if_pos hfits, Int64.ofInt_toInt]
  -- the sign decides how the digits are read
  cases hi : i.toInt with
  | ofNat n =>
    obtain ⟨c, cs, h, -, hminus⟩ := exists_decimal_eq_cons n
    have hplus := dropPlus_decimal n
    have hvalue := digitsValue?_decimal n
    rw [decimalInt, integer?, String.toList_ofList]
    rw [h] at hplus hvalue ⊢
    split
    · next heq => exact absurd (List.cons.inj heq).1 hminus
    · exact hfinish _ (by simp [hplus, hvalue, hi])
  | negSucc n =>
    have hn : -((n : Int) + 1) = i.toInt := by omega
    rw [decimalInt, integer?, String.toList_ofList]
    exact hfinish _ (by simp [digitsValue?_decimal, hn])

end Text

open Text
open Json (exists_of_bind_eq_ok)

/-! ### What can be written plainly -/

/-- A text that comes back from a line: it holds something and is trimmed. -/
def Text.Sayable (s : String) : Prop := s ≠ "" ∧ Trimmed s.toList

instance (s : String) : Decidable (Text.Sayable s) :=
  inferInstanceAs (Decidable (s ≠ "" ∧ Trimmed s.toList))

/-- The texts of an action come back. -/
def Action.Canonical : Action → Prop
  | .answer text => Sayable text
  | .protest player => Sayable player
  | _ => True

/-- The texts of a command come back. -/
def Command.Canonical : Command → Prop
  | .act a => a.Canonical
  | .reset | .leave => True

/-- The texts of a line come back, and a frame does not look like a command. -/
def Line.Canonical : Line → Prop
  | .frame text => Sayable text ∧ text.toList.head? ≠ some '!'
  | .command c => c.Canonical

/-! ### How commands are written -/

/-- A command is written as an exclamation mark, its name and, if it takes something, a blank
and the rest, and the name and the rest give it back. -/
inductive Command.Spelled (c : Command) : Prop
  /-- A name alone. -/
  | bare (name : String) (solid : Solid name.toList) (text : c.render = "!" ++ name)
      (read : ofParts name "" = .ok c)
  /-- A name and a rest. -/
  | followed (name rest : String) (solid : Solid name.toList) (sayable : Sayable rest)
      (text : c.render = "!" ++ (name ++ " " ++ rest)) (read : ofParts name rest = .ok c)

namespace Command

theorem required_of_ne {command argument value : String} (h : value ≠ "") :
    required command argument value = .ok value := if_neg h

theorem number_of_read {α : Type} {read : String → Option α} {command argument value : String}
    {a : α} (h : value ≠ "") (hread : read value = some a) :
    number read command argument value = .ok a := by
  rw [number, required_of_ne h]
  simp only [bind, Except.bind, hread]

theorem words_pair (m n : Nat) :
    words (String.ofList (decimal m) ++ " " ++ String.ofList (decimal n))
      = [String.ofList (decimal m), String.ofList (decimal n)] := by
  have hchars : (String.ofList (decimal m) ++ " " ++ String.ofList (decimal n)).toList
      = decimal m ++ ' ' :: decimal n := by simp
  rw [words, hchars, pieces_append_blank (decimal_solid m) (by decide),
    pieces_of_solid (decimal_solid n)]
  simp [decimal_ne_nil]

/-- A number in a line. -/
theorem sayable_of_solid {cs : List Char} (hne : cs ≠ []) (h : Solid cs) :
    Sayable (String.ofList cs) := by
  refine ⟨ofList_ne_empty hne, ?_⟩
  rw [String.toList_ofList]
  exact h.trimmed

theorem sayable_pair (m n : Nat) :
    Sayable (String.ofList (decimal m) ++ " " ++ String.ofList (decimal n)) := by
  have hchars : (String.ofList (decimal m) ++ " " ++ String.ofList (decimal n)).toList
      = decimal m ++ [' '] ++ decimal n := by simp
  constructor
  · intro heq
    rw [heq] at hchars
    simp at hchars
  · rw [hchars]
    exact trimmed_append (decimal_ne_nil m) (decimal_ne_nil n) (decimal_solid m).trimmed
      (decimal_solid n).trimmed [' ']

theorem ofParts_pick (column row : UInt64) :
    ofParts "pick" (String.ofList (decimal column.toNat) ++ " "
      ++ String.ofList (decimal row.toNat)) = .ok (.act (.pick column row)) := by
  have hcolumn : number natural? "pick" "a category index"
      (String.ofList (decimal column.toNat)) = .ok column :=
    number_of_read (ofList_ne_empty (decimal_ne_nil _)) (natural?_decimal column)
  have hrow : number natural? "pick" "a value index"
      (String.ofList (decimal row.toNat)) = .ok row :=
    number_of_read (ofList_ne_empty (decimal_ne_nil _)) (natural?_decimal row)
  simp [ofParts, words_pair, hcolumn, hrow, bind, Except.bind]

/-- **How a command is written, and that it is given back.** -/
theorem spelled_of_canonical {c : Command} (h : c.Canonical) : c.Spelled := by
  cases c with
  | reset => exact .bare "reset" (by decide) rfl rfl
  | leave => exact .bare "leave" (by decide) rfl rfl
  | act a =>
    cases a with
    | pick column row =>
      refine .followed "pick" _ (by decide) (sayable_pair column.toNat row.toNat) ?_
        (ofParts_pick column row)
      simp [render, ← String.toList_inj]
    | buzz pass =>
      cases pass with
      | false => exact .bare "buzz" (by decide) rfl rfl
      | true => exact .bare "pass" (by decide) rfl rfl
    | answer text =>
      refine .followed "answer" text (by decide) h (by simp [render, ← String.toList_inj]) ?_
      simp [ofParts, required_of_ne h.1, bind, Except.bind]
    | wager amount =>
      have hread : number integer? "wager" "an amount" (String.ofList (decimalInt amount.toInt))
          = .ok amount :=
        number_of_read (ofList_ne_empty (decimalInt_ne_nil _)) (integer?_decimalInt amount)
      refine .followed "wager" _ (by decide)
        (sayable_of_solid (decimalInt_ne_nil _) (decimalInt_solid amount.toInt))
        (by simp [render, ← String.toList_inj]) ?_
      simp [ofParts, hread, bind, Except.bind]
    | confirm agree =>
      cases agree with
      | false => exact .followed "confirm" "no" (by decide) (by decide) rfl rfl
      | true => exact .followed "confirm" "yes" (by decide) (by decide) rfl rfl
    | dispute overturn =>
      cases overturn with
      | false => exact .followed "dispute" "no" (by decide) (by decide) rfl rfl
      | true => exact .followed "dispute" "yes" (by decide) (by decide) rfl rfl
    | protest player =>
      refine .followed "protest" player (by decide) h (by simp [render, ← String.toList_inj]) ?_
      simp [ofParts, required_of_ne h.1, bind, Except.bind]
    | pause on =>
      cases on with
      | false => exact .bare "resume" (by decide) rfl rfl
      | true => exact .bare "pause" (by decide) rfl rfl

/-- What is behind the exclamation mark is read as the command. -/
theorem exists_body_of_canonical {c : Command} (h : c.Canonical) :
    ∃ body, c.render = "!" ++ body ∧ ofText body = .ok c ∧ Trimmed ('!' :: body.toList) := by
  cases spelled_of_canonical h with
  | bare name solid text read =>
    refine ⟨name, text, ?_, ?_⟩
    · rw [ofText, splitFirst_of_solid solid]
      exact read
    · exact Solid.trimmed (List.forall_mem_cons.mpr ⟨by decide, solid⟩)
  | followed name rest solid sayable text read =>
    have hrest : trim rest = rest := by
      rw [trim, trimChars_of_trimmed sayable.2, String.ofList_toList]
    have hne : rest.toList ≠ [] := fun heq => sayable.1 (String.toList_eq_nil_iff.mp heq)
    refine ⟨name ++ " " ++ rest, text, ?_, ?_⟩
    · rw [ofText, splitFirst_append solid]
      simpa only [hrest] using read
    · have htrimmed := trimmed_append (List.cons_ne_nil '!' []) hne (by decide) sayable.2
        (name.toList ++ [' '])
      simpa using htrimmed

/-! ### What a command holds -/

theorem sayable_of_required {command argument value text : String}
    (h : required command argument value = .ok text) (htrimmed : Trimmed value.toList) :
    Sayable text := by
  unfold required at h
  split at h
  · cases h
  · next hne =>
    cases h
    exact ⟨hne, htrimmed⟩

/-- **What a command holds is trimmed as the rest of its line is.** -/
theorem canonical_of_ofParts {name rest : String} {c : Command} (h : ofParts name rest = .ok c)
    (htrimmed : Trimmed rest.toList) : c.Canonical := by
  unfold ofParts at h
  split at h
  case h_8 =>
    obtain ⟨text, htext, h⟩ := exists_of_bind_eq_ok h
    cases h
    exact sayable_of_required htext htrimmed
  case h_12 =>
    obtain ⟨player, hplayer, h⟩ := exists_of_bind_eq_ok h
    cases h
    exact sayable_of_required hplayer htrimmed
  case h_7 =>
    obtain ⟨column, -, h⟩ := exists_of_bind_eq_ok h
    obtain ⟨row, -, h⟩ := exists_of_bind_eq_ok h
    cases h
    trivial
  case h_9 | h_10 | h_11 =>
    obtain ⟨_, -, h⟩ := exists_of_bind_eq_ok h
    cases h
    trivial
  all_goals
    cases h
    try trivial

end Command

/-! ### Lines -/

namespace Line

/-- Blanks around a line do not count. -/
theorem ofText_pad {w w' s : String} (hw : Blank w.toList) (h : Trimmed s.toList)
    (hw' : Blank w'.toList) : ofText (w ++ s ++ w') = ofText s := by
  have hchars : (w ++ s ++ w').toList = w.toList ++ s.toList ++ w'.toList := by simp
  rw [ofText, ofText, hchars, trimChars_pad hw h hw', trimChars_of_trimmed h]

theorem ofText_render {x : Line} (h : x.Canonical) :
    Trimmed x.render.toList ∧ ofText x.render = .ok (some x) := by
  cases x with
  | frame text =>
    obtain ⟨⟨hne, htrimmed⟩, hmark⟩ := h
    refine ⟨htrimmed, ?_⟩
    change ofText text = _
    rw [ofText, trimChars_of_trimmed htrimmed]
    split
    · next heq => exact absurd (String.toList_eq_nil_iff.mp heq) hne
    · next heq => exact absurd (by rw [heq]; rfl) hmark
    · rw [String.ofList_toList]
  | command c =>
    obtain ⟨body, htext, hread, htrimmed⟩ := Command.exists_body_of_canonical h
    have hchars : c.render.toList = '!' :: body.toList := by simp [htext]
    change Trimmed c.render.toList ∧ ofText c.render = _
    rw [ofText, hchars, trimChars_of_trimmed htrimmed]
    refine ⟨htrimmed, ?_⟩
    simp only [String.ofList_toList, hread]
    rfl

/-- Behind the trimmed line, what a line says is trimmed. -/
theorem canonical_of_ofText {s : String} {x : Line} (h : ofText s = .ok (some x)) :
    x.Canonical := by
  have htrimmed := trimmed_trimChars s.toList
  unfold ofText at h
  split at h
  · cases h
  · next body heq =>
    cases hc : Command.ofText (String.ofList body) with
    | error e =>
      rw [hc] at h
      cases h
    | ok c =>
      rw [hc] at h
      cases h
      refine Command.canonical_of_ofParts hc ?_
      rw [trim, String.toList_ofList]
      exact trimmed_trimChars _
  · next cs hne hmark =>
    cases h
    refine ⟨⟨?_, ?_⟩, ?_⟩
    · exact ofList_ne_empty hne
    · rwa [String.toList_ofList]
    · rw [String.toList_ofList]
      intro hhead
      obtain ⟨tail, htail⟩ := List.head?_eq_some_iff.mp hhead
      exact hmark tail htail

theorem ofText_eq_none_iff {s : String} : ofText s = .ok none ↔ Blank s.toList := by
  rw [← trimChars_eq_nil_iff]
  constructor
  · intro h
    unfold ofText at h
    split at h
    · next heq => exact heq
    · next body heq =>
      cases hc : Command.ofText (String.ofList body) with
      | error e =>
        rw [hc] at h
        cases h
      | ok c =>
        rw [hc] at h
        cases h
    · cases h
  · intro h
    rw [ofText, h]

end Line

/-- **Lines are read back, and nothing else is read.**  What is written plainly is read back
from it with any blanks around it; what is read can be written plainly; and a line says
nothing only if it is blank. -/
theorem lines_read_back :
    (∀ x : Line, x.Canonical → ∀ w w' : String, Blank w.toList → Blank w'.toList →
      Line.ofText (w ++ x.render ++ w') = .ok (some x)) ∧
    (∀ (s : String) (x : Line), Line.ofText s = .ok (some x) → x.Canonical) ∧
    ∀ s : String, Line.ofText s = .ok none ↔ Blank s.toList := by
  refine ⟨?_, fun s x h => Line.canonical_of_ofText h, fun s => Line.ofText_eq_none_iff⟩
  intro x h w w' hw hw'
  obtain ⟨htrimmed, hread⟩ := Line.ofText_render h
  rw [Line.ofText_pad hw htrimmed hw', hread]

/-- An answer that looks like a command, between blanks that are not ASCII; the least wager;
what an odd line is read as; and a line of blanks. -/
theorem odd_lines_read_back :
    Line.ofText ("\u00a0\t" ++ (Line.command (.act (.answer "!leave\u3000 no"))).render ++ "\u2028")
        = .ok (some (.command (.act (.answer "!leave\u3000 no")))) ∧
      Line.ofText ("" ++ (Line.command (.act (.wager Int64.minValue))).render ++ " ")
        = .ok (some (.command (.act (.wager Int64.minValue)))) ∧
      (Line.command (.act (.protest "a !b"))).Canonical ∧
      Line.ofText "\u00a0\u2028 " = .ok none := by
  refine ⟨?_, ?_, ?_, ?_⟩
  · have hsayable : Sayable "!leave\u3000 no" := by decide
    exact lines_read_back.1 (.command (.act (.answer "!leave\u3000 no"))) hsayable _ _
      (by decide) (by decide)
  · exact lines_read_back.1 (.command (.act (.wager Int64.minValue))) trivial _ _
      (by decide) (by decide)
  · exact lines_read_back.2.1 "\t!protest\u00a0 a !b\u3000" _ (by decide +kernel)
  · exact (lines_read_back.2.2 _).mpr (by decide)

end QuizClient
