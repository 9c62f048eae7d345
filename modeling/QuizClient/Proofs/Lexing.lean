import QuizClient.Proofs.Written

/-!
# Tokens of parts of a text

The tokens of a text are those of its parts, one after another, if it is cut where no token
goes on: a number must not run on into the next part, and a string must be closed.  The other
way round, a text can be cut at any punctuation among its tokens, into the texts of the tokens
in front of it and of those behind it.

Both hold because a character does one of four things to the token that is being read: it goes
on, it is finished, it goes wrong, or it has ended in front of the character, which is then
read as if it stood alone.

The words, numbers and strings of JSON are each a single token.  Their grammar is given here by
itself, without the control that reads them.

## Main definitions

* `Token.char?` — the character of a punctuation token.
* `Mode.Outcome` — what a character does.
* `Numeral`, `Literal` — the numbers and the strings of JSON.

## Main results

* `scan_append` — **the tokens of two parts.**
* `exists_cut` — **a text is cut at a punctuation token.**
* `scan_eq_nil_iff` — there is no token in blanks only.
* `Numeral.exists_token`, `Literal.exists_token` — numbers and strings are tokens.
-/

namespace QuizClient.Json

/-! ### What a character does -/

/-- The character of a punctuation token. -/
def Token.char? : Token → Option Char
  | .openBrace => some '\x7b'
  | .closeBrace => some '\x7d'
  | .openBracket => some '['
  | .closeBracket => some ']'
  | .colon => some ':'
  | .comma => some ','
  | _ => none

namespace Mode

/-- The word that is being read, if any, makes no punctuation and nothing bad. -/
def Plain : Mode → Prop
  | word _ _ token => token.char? = none ∧ token ≠ .bad
  | _ => True

theorem plain_gap : gap.Plain := trivial

/-- A token is being read. -/
def Busy : Mode → Prop
  | gap | stuck => False
  | _ => True

theorem Busy.ne_stuck {mode : Mode} (h : mode.Busy) : mode ≠ .stuck := by
  rintro rfl
  exact h

/-- A token that is being read becomes one at the end of the text, even if a bad one. -/
theorem Busy.finish_ne_nil {mode : Mode} (h : mode.Busy) : mode.finish ≠ [] := by
  cases mode with
  | gap | stuck => exact absurd h id
  | _ => exact List.cons_ne_nil _ _

/-- What a character does between tokens. -/
inductive Start (c : Char) : Mode × List Token → Prop where
  /-- It is blank. -/
  | blank (h : isGap c = true) : Start c (.gap, [])
  /-- It is punctuation. -/
  | mark {t : Token} (h : t.char? = some c) : Start c (.gap, [t])
  /-- It begins a token. -/
  | begins {mode : Mode} (busy : mode.Busy) (plain : mode.Plain) : Start c (mode, [])
  /-- It goes wrong. -/
  | wrong : Start c (.stuck, [.bad])

theorem start_stepGap (c : Char) : Start c (stepGap c) := by
  unfold stepGap
  split
  · next h => exact .blank h
  split
  case h_12 =>
    split
    · exact .begins trivial trivial
    · exact .wrong
  all_goals first
    | exact .mark rfl
    | exact .begins trivial trivial
    | exact .begins trivial ⟨rfl, by simp⟩

/-- What a character does to the token that is being read. -/
inductive Outcome (mode : Mode) (c : Char) : Mode × List Token → Prop where
  /-- The token goes on. -/
  | goesOn {next : Mode} (busy : next.Busy) (plain : next.Plain) : Outcome mode c (next, [])
  /-- The token is finished. -/
  | finished {t : Token} (busy : mode.Busy) (char : t.char? = none) (good : t ≠ .bad) :
      Outcome mode c (.gap, [t])
  /-- It goes wrong. -/
  | wrong : Outcome mode c (.stuck, [.bad])
  /-- The token, if any, has ended in front of the character. -/
  | ended (good : .bad ∉ mode.finish) (char : ∀ t ∈ mode.finish, t.char? = none) :
      Outcome mode c ((stepGap c).1, mode.finish ++ (stepGap c).2)

theorem outcome_stepBehind {mode : Mode} {n : Number} (h : mode.finish = [.number n]) (c : Char) :
    Outcome mode c (stepBehind n c) := by
  have hstep : stepBehind n c = ((stepGap c).1, mode.finish ++ (stepGap c).2) := by
    rw [h]
    rfl
  rw [hstep]
  exact .ended (by simp [h]) (by simp [h, Token.char?])

theorem outcome_stepFraction {mode : Mode} {c : Char} (m : Mantissa) (d : Nat) :
    Outcome mode c (stepFraction m d) := by
  unfold stepFraction
  split <;> exact .goesOn trivial trivial

/-- **A character does one of four things.** -/
theorem outcome_step {mode : Mode} (hplain : mode.Plain) (hstuck : mode ≠ .stuck) (c : Char) :
    Outcome mode c (mode.step c) := by
  cases mode with
  | gap => exact .ended (by simp [finish]) (by simp [finish])
  | stuck => exact absurd rfl hstuck
  | word next left token =>
    cases left with
    | nil =>
      rw [step]
      split
      · exact .finished trivial hplain.1 hplain.2
      · exact .wrong
    | cons l left =>
      rw [step]
      split
      · exact .goesOn trivial hplain
      · exact .wrong
  | text units =>
    rw [step]
    split
    · exact .finished trivial rfl (by simp)
    split
    · exact .goesOn trivial trivial
    split
    · exact .wrong
    · exact .goesOn trivial trivial
  | escape units =>
    rw [step]
    split
    · exact .goesOn trivial trivial
    split
    · exact .goesOn trivial trivial
    · exact .wrong
  | code units left value =>
    rw [step]
    split
    · dsimp only
      split <;> exact .goesOn trivial trivial
    · exact .wrong
  | minus | sign m down =>
    rw [step]
    split
    · exact .goesOn trivial trivial
    · exact .wrong
  | whole m =>
    rw [step]
    split
    · split
      · exact .wrong
      split <;> exact .goesOn trivial trivial
    split
    · exact .goesOn trivial trivial
    split
    · exact .goesOn trivial trivial
    · exact outcome_stepBehind rfl c
  | long m =>
    rw [step]
    split
    · exact .goesOn trivial trivial
    split
    · exact .goesOn trivial trivial
    split
    · exact .goesOn trivial trivial
    · exact outcome_stepBehind rfl c
  | point m =>
    rw [step]
    split
    · exact outcome_stepFraction m _
    · exact .wrong
  | fraction m =>
    rw [step]
    split
    · exact outcome_stepFraction m _
    split
    · exact .goesOn trivial trivial
    · exact outcome_stepBehind rfl c
  | surplus m =>
    rw [step]
    split
    · exact .goesOn trivial trivial
    split
    · exact .goesOn trivial trivial
    · exact outcome_stepBehind rfl c
  | mark m =>
    rw [step]
    split
    · exact .goesOn trivial trivial
    split
    · exact .goesOn trivial trivial
    split
    · exact .goesOn trivial trivial
    · exact .wrong
  | power m down value =>
    rw [step]
    split
    · exact .goesOn trivial trivial
    · exact outcome_stepBehind rfl c

theorem Start.plain {c : Char} {r : Mode × List Token} (h : Start c r) : r.1.Plain := by
  cases h with
  | blank | mark | wrong => trivial
  | begins _ plain => exact plain

theorem Outcome.plain {mode : Mode} {c : Char} {r : Mode × List Token} (h : Outcome mode c r) :
    r.1.Plain := by
  cases h with
  | goesOn _ plain => exact plain
  | finished | wrong => trivial
  | ended => exact (start_stepGap c).plain

theorem Start.ne_stuck {c : Char} {r : Mode × List Token} (h : Start c r) (hgood : .bad ∉ r.2) :
    r.1 ≠ .stuck := by
  cases h with
  | blank | mark => exact nofun
  | begins busy => exact busy.ne_stuck
  | wrong => exact absurd List.mem_cons_self hgood

theorem Outcome.ne_stuck {mode : Mode} {c : Char} {r : Mode × List Token}
    (h : Outcome mode c r) (hgood : .bad ∉ r.2) : r.1 ≠ .stuck := by
  cases h with
  | goesOn busy => exact busy.ne_stuck
  | finished => exact nofun
  | wrong => exact absurd List.mem_cons_self hgood
  | ended =>
    refine (start_stepGap c).ne_stuck fun hmem => hgood ?_
    exact List.mem_append_right _ hmem

/-- A character that cannot belong to a number comes behind its end. -/
theorem step_of_delimited {mode : Mode} (hstuck : mode ≠ .stuck) (hgood : .bad ∉ mode.finish)
    {c : Char} (h : digit? c = none ∧ c ≠ '.' ∧ isMark c = false) :
    mode.step c = ((stepGap c).1, mode.finish ++ (stepGap c).2) := by
  obtain ⟨hdigit, hpoint, hmark⟩ := h
  have hnone : c.isDigit = false := by simpa [digit?] using hdigit
  cases mode with
  | gap => rfl
  | stuck => exact absurd rfl hstuck
  | whole | long | fraction | surplus | power =>
    simp [step, finish, stepBehind, hdigit, hnone, hpoint, hmark]
  | _ => simp [finish] at hgood

end Mode

/-! ### Texts in parts -/

theorem scan_cons_nil (mode : Mode) (c : Char) (cs : List Char) :
    scan mode [] (c :: cs) = (mode.step c).2 ++ scan (mode.step c).1 [] cs := by
  rw [scan_cons, scan_eq_append]
  simp

theorem scan_stuck (cs : List Char) : scan .stuck [] cs = [] := by
  induction cs with
  | nil => rfl
  | cons c cs ih => rw [scan_cons_nil, Mode.step, List.nil_append, ih]

/-- A token that is being read becomes a token, even if a bad one. -/
theorem scan_ne_nil {mode : Mode} (hbusy : mode.Busy) (hplain : mode.Plain) (cs : List Char) :
    scan mode [] cs ≠ [] := by
  induction cs generalizing mode with
  | nil => exact hbusy.finish_ne_nil
  | cons c cs ih =>
    have houtcome := Mode.outcome_step hplain hbusy.ne_stuck c
    rw [scan_cons_nil]
    revert houtcome
    generalize mode.step c = r
    intro houtcome
    cases houtcome with
    | goesOn busy plain => exact ih busy plain
    | finished | wrong => exact List.cons_ne_nil _ _
    | ended => simp [hbusy.finish_ne_nil]

/-- **The tokens of two parts of a text**, if the first is a text by itself and the second does
not go on with a number. -/
theorem scan_append {mode : Mode} (hplain : mode.Plain) (hstuck : mode ≠ .stuck) {cs : List Char}
    (hgood : .bad ∉ scan mode [] cs) {rest : List Char} (h : Delimited rest) :
    scan mode [] (cs ++ rest) = scan mode [] cs ++ scan .gap [] rest := by
  induction cs generalizing mode with
  | nil =>
    rw [scan_nil, List.reverse_nil, List.nil_append] at hgood ⊢
    cases rest with
    | nil => simp [Mode.finish]
    | cons c rest =>
      rw [List.nil_append, scan_cons_nil, Mode.step_of_delimited hstuck hgood (h c rfl),
        scan_cons_nil, List.append_assoc]
      rfl
  | cons c cs ih =>
    have houtcome := Mode.outcome_step hplain hstuck c
    rw [scan_cons_nil] at hgood ⊢
    rw [List.cons_append, scan_cons_nil, List.append_assoc]
    have hout : .bad ∉ (mode.step c).2 := fun hmem => hgood (List.mem_append_left _ hmem)
    have hrest : .bad ∉ scan (mode.step c).1 [] cs :=
      fun hmem => hgood (List.mem_append_right _ hmem)
    rw [ih houtcome.plain (houtcome.ne_stuck hout) hrest]

/-- Only blanks make no token. -/
theorem scan_eq_nil_iff {cs : List Char} : scan .gap [] cs = [] ↔ ∀ c ∈ cs, isGap c = true := by
  induction cs with
  | nil => simp [Mode.finish]
  | cons c cs ih =>
    have hstep : Mode.gap.step c = stepGap c := rfl
    rw [scan_cons_nil, hstep, List.forall_mem_cons]
    constructor
    · intro h
      have hstart := Mode.start_stepGap c
      revert h hstart
      generalize stepGap c = r
      intro h hstart
      cases hstart with
      | blank hblank => exact ⟨hblank, ih.mp h⟩
      | mark | wrong => cases h
      | begins busy plain => exact absurd h (scan_ne_nil busy plain cs)
    · rintro ⟨hc, hcs⟩
      simp [stepGap, hc, ih.mpr hcs]

/-- Blanks in front of a text make no difference. -/
theorem scan_blank_append {w : List Char} (h : ∀ c ∈ w, isGap c = true) (cs : List Char) :
    scan .gap [] (w ++ cs) = scan .gap [] cs := by
  induction w with
  | nil => rfl
  | cons c w ih =>
    obtain ⟨hc, hw⟩ := List.forall_mem_cons.mp h
    have hstep : Mode.gap.step c = (.gap, []) := by simp [Mode.step, stepGap, hc]
    rw [List.cons_append, scan_cons_nil, hstep, List.nil_append, ih hw]

theorem Mode.finish_char (mode : Mode) : ∀ t ∈ mode.finish, t.char? = none := by
  cases mode <;> simp [finish, Token.char?]

/-- A character that makes punctuation is this punctuation, and the token in front of it has
ended there. -/
theorem Mode.Outcome.punctuation {mode : Mode} {d : Char} {r : Mode × List Token}
    (h : Outcome mode d r) {ts us : List Token} {t : Token} {c : Char} (ht : t.char? = some c)
    (hout : r.2 = ts ++ t :: us) : d = c ∧ r.1 = .gap ∧ mode.finish = ts ∧ us = [] := by
  have hmem : t ∈ r.2 := hout ▸ List.mem_append_right ts List.mem_cons_self
  cases h with
  | goesOn => cases hmem
  | finished _ char =>
    obtain rfl := List.mem_singleton.mp hmem
    rw [char] at ht
    cases ht
  | wrong =>
    obtain rfl := List.mem_singleton.mp hmem
    cases ht
  | ended good char =>
    have hnew : t ∉ mode.finish := by
      intro hold
      rw [char t hold] at ht
      cases ht
    have hstart := start_stepGap d
    revert hstart hmem hout
    generalize stepGap d = r
    intro hout hmem hstart
    cases hstart with
    | blank | begins => exact absurd (by simpa using hmem) hnew
    | wrong =>
      rcases List.mem_append.mp hmem with hold | hbad
      · exact absurd hold hnew
      · obtain rfl := List.mem_singleton.mp hbad
        cases ht
    | @mark t' hmark =>
      rcases List.eq_nil_or_concat us with rfl | ⟨us, u, rfl⟩
      · obtain ⟨hfinish, hsame⟩ := List.append_inj' hout rfl
        obtain rfl := (List.cons.inj hsame).1
        exact ⟨Option.some.inj (hmark.symm.trans ht), rfl, hfinish, rfl⟩
      · -- then it would have come before
        have hlonger : mode.finish ++ [t'] = (ts ++ t :: us) ++ [u] := by simpa using hout
        have hfinish := (List.append_inj' hlonger rfl).1
        exact absurd (hfinish ▸ List.mem_append_right ts List.mem_cons_self) hnew

/-- **A text is cut at a punctuation token**, into the texts of the tokens in front of it and
behind it. -/
theorem exists_cut {mode : Mode} (hplain : mode.Plain) {cs : List Char} {ts us : List Token}
    {t : Token} {c : Char} (ht : t.char? = some c) (h : scan mode [] cs = ts ++ t :: us) :
    ∃ front back, cs = front ++ c :: back ∧ scan mode [] front = ts ∧ scan .gap [] back = us := by
  induction cs generalizing mode ts with
  | nil =>
    have hmem : t ∈ mode.finish := by
      rw [scan_nil, List.reverse_nil, List.nil_append] at h
      simp [h]
    rw [mode.finish_char t hmem] at ht
    cases ht
  | cons d cs ih =>
    by_cases hstuck : mode = .stuck
    · rw [hstuck, scan_stuck] at h
      exact absurd h.symm (by simp)
    have houtcome := Mode.outcome_step hplain hstuck d
    rw [scan_cons_nil] at h
    -- the token comes behind what this character finishes, or is what it makes
    rcases List.append_eq_append_iff.mp h with ⟨later, hts, hlater⟩ | ⟨now, hout, hnow⟩
    · obtain ⟨front, back, rfl, hfront, hback⟩ := ih houtcome.plain hlater
      exact ⟨d :: front, back, rfl, by rw [scan_cons_nil, hfront, hts], hback⟩
    · cases now with
      | nil =>
        rw [List.append_nil] at hout
        have hlater : scan (mode.step d).1 [] cs = [] ++ t :: us := hnow.symm
        obtain ⟨front, back, rfl, hfront, hback⟩ := ih houtcome.plain hlater
        exact ⟨d :: front, back, rfl, by rw [scan_cons_nil, hfront, hout, List.append_nil], hback⟩
      | cons u now =>
        obtain ⟨rfl, hus⟩ := List.cons.inj hnow
        obtain ⟨rfl, hgap, hfinish, rfl⟩ := houtcome.punctuation ht hout
        refine ⟨[], cs, rfl, hfinish, ?_⟩
        rw [hus, hgap]
        rfl

/-! ### Words, numbers and strings -/

/-- Some digits. -/
def Digits (ds : List Char) : Prop := ds ≠ [] ∧ ∀ c ∈ ds, c.isDigit = true

/-- The whole part of a number: a zero, or digits that do not begin with one. -/
inductive Whole : List Char → Prop where
  /-- A zero alone. -/
  | zero : Whole ['0']
  /-- Digits. -/
  | digits {c : Char} {ds : List Char} (first : c.isDigit = true) (nonzero : c ≠ '0')
      (rest : ∀ d ∈ ds, d.isDigit = true) : Whole (c :: ds)

/-- The fraction of a number, if it has one. -/
inductive Fraction : List Char → Prop where
  /-- No fraction. -/
  | none : Fraction []
  /-- A point and digits. -/
  | some {ds : List Char} (digits : Digits ds) : Fraction ('.' :: ds)

/-- The exponent of a number, if it has one. -/
inductive Exponent : List Char → Prop where
  /-- No exponent. -/
  | none : Exponent []
  /-- A mark and digits. -/
  | plain {e : Char} {ds : List Char} (mark : e = 'e' ∨ e = 'E') (digits : Digits ds) :
      Exponent (e :: ds)
  /-- A mark, a sign and digits. -/
  | signed {e s : Char} {ds : List Char} (mark : e = 'e' ∨ e = 'E') (sign : s = '+' ∨ s = '-')
      (digits : Digits ds) : Exponent (e :: s :: ds)

/-- The numbers of JSON. -/
inductive Numeral : List Char → Prop where
  /-- A number without a sign. -/
  | plain {whole fraction exponent : List Char} (first : Whole whole) (second : Fraction fraction)
      (third : Exponent exponent) : Numeral (whole ++ fraction ++ exponent)
  /-- A number behind a minus. -/
  | negative {whole fraction exponent : List Char} (first : Whole whole)
      (second : Fraction fraction) (third : Exponent exponent) :
      Numeral ('-' :: (whole ++ fraction ++ exponent))

/-- A hexadecimal digit. -/
def HexDigit (c : Char) : Prop :=
  c.isDigit = true ∨ ('a' ≤ c ∧ c ≤ 'f') ∨ ('A' ≤ c ∧ c ≤ 'F')

/-- The inside of a string of JSON. -/
inductive Inside : List Char → Prop where
  /-- Nothing. -/
  | nil : Inside []
  /-- A character that is neither a quotation mark nor a backslash nor below the space. -/
  | plain {c : Char} {cs : List Char} (quote : c ≠ '"') (backslash : c ≠ '\\')
      (visible : 0x20 ≤ c.toNat) (rest : Inside cs) : Inside (c :: cs)
  /-- An escape by a letter. -/
  | escape {c : Char} {cs : List Char}
      (letter : c ∈ ['"', '\\', '/', 'b', 'f', 'n', 'r', 't']) (rest : Inside cs) :
      Inside ('\\' :: c :: cs)
  /-- An escape by four digits. -/
  | code {a b c d : Char} {cs : List Char} (ha : HexDigit a) (hb : HexDigit b) (hc : HexDigit c)
      (hd : HexDigit d) (rest : Inside cs) : Inside ('\\' :: 'u' :: a :: b :: c :: d :: cs)

/-- The strings of JSON. -/
def Literal (cs : List Char) : Prop := ∃ inside, Inside inside ∧ cs = '"' :: inside ++ ['"']

/-- In some characters a token goes on. -/
def Mode.Runs (mode : Mode) (cs : List Char) (next : Mode) : Prop :=
  ∀ rest, scan mode [] (cs ++ rest) = scan next [] rest

namespace Mode.Runs

variable {mode middle next : Mode} {cs ds : List Char}

theorem nil (mode : Mode) : mode.Runs [] mode := fun _ => rfl

theorem cons {c : Char} (h : mode.step c = (middle, [])) (h' : middle.Runs cs next) :
    mode.Runs (c :: cs) next := by
  intro rest
  rw [List.cons_append, scan_cons_nil, h, List.nil_append]
  exact h' rest

theorem append (h : mode.Runs cs middle) (h' : middle.Runs ds next) :
    mode.Runs (cs ++ ds) next := by
  intro rest
  rw [List.append_assoc, h, h']

/-- Where digits lead from one mode of some sort to another, they do in any number. -/
theorem digits {P : Mode → Prop} (hP : ∀ mode, P mode → ∀ c, c.isDigit = true →
      ∃ next, P next ∧ mode.step c = (next, []))
    (hmode : P mode) (hds : ∀ c ∈ ds, c.isDigit = true) : ∃ next, P next ∧ mode.Runs ds next := by
  induction ds generalizing mode with
  | nil => exact ⟨mode, hmode, nil mode⟩
  | cons c ds ih =>
    obtain ⟨hc, hds⟩ := List.forall_mem_cons.mp hds
    obtain ⟨middle, hmiddle, hstep⟩ := hP mode hmode c hc
    obtain ⟨next, hnext, hruns⟩ := ih hmiddle hds
    exact ⟨next, hnext, cons hstep hruns⟩

end Mode.Runs

/-! ### Reading a number -/

theorem exists_digitChar {c : Char} (h : c.isDigit = true) : ∃ d < 10, c = Nat.digitChar d := by
  have hrange : 48 ≤ c.toNat ∧ c.toNat ≤ 57 := Char.isDigit_iff_toNat.mp h
  have hchar : ∀ d < 10, Char.ofNat (48 + d) = Nat.digitChar d := by decide
  refine ⟨c.toNat - 48, by omega, ?_⟩
  rw [← hchar _ (by omega), Nat.add_sub_cancel' hrange.1, Char.ofNat_toNat]

theorem exists_digit {c : Char} (h : c.isDigit = true) : ∃ d, digit? c = some d :=
  ⟨_, if_pos h⟩

namespace Mode

/-- A number may end here. -/
def Ends (mode : Mode) : Prop := ∃ n, mode.finish = [.number n]

/-- Whole digits that did not begin with a zero are being read. -/
def InWhole (mode : Mode) : Prop :=
  (∃ m : Mantissa, m.significand ≠ 0 ∧ mode = .whole m) ∨ ∃ m, mode = .long m

/-- Fraction digits are being read. -/
def InFraction (mode : Mode) : Prop := (∃ m, mode = .fraction m) ∨ ∃ m, mode = .surplus m

/-- The digits of an exponent are being read. -/
def InPower (mode : Mode) : Prop := ∃ m down value, mode = .power m down value

theorem inWhole_step {mode : Mode} (h : mode.InWhole) {c : Char} (hc : c.isDigit = true) :
    ∃ next : Mode, next.InWhole ∧ mode.step c = (next, []) := by
  obtain ⟨d, hdigit⟩ := exists_digit hc
  obtain ⟨m, hm, rfl⟩ | ⟨m, rfl⟩ := h
  · cases hpush : m.push? d with
    | none =>
      refine ⟨.long { m with exponent := 1 }, .inr ⟨_, rfl⟩, ?_⟩
      simp [step, hdigit, hm, hpush]
    | some m' =>
      have hnonzero : m'.significand ≠ 0 := by
        simp only [Mantissa.push?, Option.ite_none_right_eq_some] at hpush
        obtain ⟨-, hm'⟩ := hpush
        cases hm'
        simp only
        omega
      exact ⟨.whole m', .inl ⟨m', hnonzero, rfl⟩, by simp [step, hdigit, hm, hpush]⟩
  · exact ⟨.long { m with exponent := m.exponent + 1 }, .inr ⟨_, rfl⟩, by simp [step, hc]⟩

theorem inFraction_stepFraction (m : Mantissa) (d : Nat) :
    ∃ next : Mode, next.InFraction ∧ stepFraction m d = (next, []) := by
  unfold stepFraction
  split
  · exact ⟨_, .inl ⟨_, rfl⟩, rfl⟩
  · exact ⟨_, .inr ⟨_, rfl⟩, rfl⟩

theorem inFraction_step {mode : Mode} (h : mode.InFraction) {c : Char} (hc : c.isDigit = true) :
    ∃ next : Mode, next.InFraction ∧ mode.step c = (next, []) := by
  obtain ⟨m, rfl⟩ | ⟨m, rfl⟩ := h
  · obtain ⟨d, hdigit⟩ := exists_digit hc
    obtain ⟨next, hnext, hstep⟩ := inFraction_stepFraction m d
    exact ⟨next, hnext, by simp [step, hdigit, hstep]⟩
  · exact ⟨.surplus m, .inr ⟨m, rfl⟩, by simp [step, hc]⟩

theorem inPower_step {mode : Mode} (h : mode.InPower) {c : Char} (hc : c.isDigit = true) :
    ∃ next : Mode, next.InPower ∧ mode.step c = (next, []) := by
  obtain ⟨m, down, value, rfl⟩ := h
  obtain ⟨d, hdigit⟩ := exists_digit hc
  exact ⟨.power m down (10 * value + d), ⟨_, _, _, rfl⟩, by simp [step, hdigit]⟩

/-- The whole part of a number has been read. -/
structure AfterWhole (mode : Mode) : Prop where
  /-- The number may end. -/
  ends : mode.Ends
  /-- A point may come. -/
  point : ∃ m, mode.step '.' = (.point m, [])
  /-- An exponent may come. -/
  mark : ∀ e, e = 'e' ∨ e = 'E' → ∃ m, mode.step e = (.mark m, [])

theorem afterWhole_whole (m : Mantissa) : (whole m).AfterWhole := by
  refine ⟨⟨_, rfl⟩, ⟨m, rfl⟩, ?_⟩
  rintro e (rfl | rfl)
  · exact ⟨m, rfl⟩
  · exact ⟨m, rfl⟩

theorem InWhole.after {mode : Mode} (h : mode.InWhole) : mode.AfterWhole := by
  obtain ⟨m, -, rfl⟩ | ⟨m, rfl⟩ := h
  · exact afterWhole_whole m
  · refine ⟨⟨_, rfl⟩, ⟨m, rfl⟩, ?_⟩
    rintro e (rfl | rfl)
    · exact ⟨m, rfl⟩
    · exact ⟨m, rfl⟩

/-- The whole part and the fraction of a number have been read. -/
structure AfterFraction (mode : Mode) : Prop where
  /-- The number may end. -/
  ends : mode.Ends
  /-- An exponent may come. -/
  mark : ∀ e, e = 'e' ∨ e = 'E' → ∃ m, mode.step e = (.mark m, [])

theorem InFraction.after {mode : Mode} (h : mode.InFraction) : mode.AfterFraction := by
  obtain ⟨m, rfl⟩ | ⟨m, rfl⟩ := h
  · refine ⟨⟨_, rfl⟩, ?_⟩
    rintro e (rfl | rfl)
    · exact ⟨m, rfl⟩
    · exact ⟨m, rfl⟩
  · refine ⟨⟨_, rfl⟩, ?_⟩
    rintro e (rfl | rfl)
    · exact ⟨m, rfl⟩
    · exact ⟨m, rfl⟩

theorem exists_runs_whole {mode : Mode} {negative : Bool} (h : mode.OpensNumber negative)
    {ds : List Char} (hds : Whole ds) : ∃ next : Mode, next.AfterWhole ∧ mode.Runs ds next := by
  cases hds with
  | zero => exact ⟨_, afterWhole_whole _, .cons (h 0 (by decide)) (.nil _)⟩
  | @digits c ds first nonzero rest =>
    obtain ⟨d, hd, rfl⟩ := exists_digitChar first
    have hne : d ≠ 0 := by
      rintro rfl
      exact nonzero rfl
    have hin : (whole ⟨negative, d, 0⟩).InWhole := .inl ⟨_, hne, rfl⟩
    obtain ⟨next, hnext, hruns⟩ :=
      Runs.digits (fun _ hmode _ hc => inWhole_step hmode hc) hin rest
    exact ⟨next, hnext.after, .cons (h d hd) hruns⟩

theorem AfterWhole.exists_runs {mode : Mode} (h : mode.AfterWhole) {cs : List Char}
    (hcs : Fraction cs) : ∃ next : Mode, next.AfterFraction ∧ mode.Runs cs next := by
  cases hcs with
  | none => exact ⟨mode, ⟨h.ends, h.mark⟩, .nil mode⟩
  | @some ds digits =>
    obtain ⟨hne, hds⟩ := digits
    obtain ⟨m, hpoint⟩ := h.point
    cases ds with
    | nil => exact absurd rfl hne
    | cons c ds =>
      obtain ⟨hc, hds⟩ := List.forall_mem_cons.mp hds
      obtain ⟨d, hdigit⟩ := exists_digit hc
      obtain ⟨first, hfirst, hstep⟩ := inFraction_stepFraction m d
      obtain ⟨next, hnext, hruns⟩ :=
        Runs.digits (fun _ hmode _ hc => inFraction_step hmode hc) hfirst hds
      refine ⟨next, hnext.after, .cons hpoint (.cons ?_ hruns)⟩
      simp [step, hdigit, hstep]

/-- The digits of an exponent are read from where the first of them is. -/
theorem exists_runs_power {mode : Mode} (h : ∀ c, c.isDigit = true →
      ∃ next : Mode, next.InPower ∧ mode.step c = (next, [])) {ds : List Char} (hds : Digits ds) :
    ∃ next : Mode, next.Ends ∧ mode.Runs ds next := by
  obtain ⟨hne, hds⟩ := hds
  cases ds with
  | nil => exact absurd rfl hne
  | cons c ds =>
    obtain ⟨hc, hds⟩ := List.forall_mem_cons.mp hds
    obtain ⟨first, hfirst, hstep⟩ := h c hc
    obtain ⟨next, ⟨m, down, value, rfl⟩, hruns⟩ :=
      Runs.digits (fun _ hmode _ hc => inPower_step hmode hc) hfirst hds
    exact ⟨_, ⟨_, rfl⟩, .cons hstep hruns⟩

theorem AfterFraction.exists_runs {mode : Mode} (h : mode.AfterFraction) {cs : List Char}
    (hcs : Exponent cs) : ∃ next : Mode, next.Ends ∧ mode.Runs cs next := by
  cases hcs with
  | none => exact ⟨mode, h.ends, .nil mode⟩
  | @plain e ds mark digits =>
    obtain ⟨m, hmark⟩ := h.mark e mark
    have hfirst : ∀ c, c.isDigit = true →
        ∃ next : Mode, next.InPower ∧ (Mode.mark m).step c = (next, []) := by
      intro c hc
      have hplus : c ≠ '+' := by
        rintro rfl
        cases hc
      have hminus : c ≠ '-' := by
        rintro rfl
        cases hc
      obtain ⟨d, hdigit⟩ := exists_digit hc
      exact ⟨.power m false d, ⟨_, _, _, rfl⟩, by simp [step, hplus, hminus, hdigit]⟩
    obtain ⟨next, hnext, hruns⟩ := exists_runs_power hfirst digits
    exact ⟨next, hnext, .cons hmark hruns⟩
  | @signed e s ds mark sign digits =>
    obtain ⟨m, hmark⟩ := h.mark e mark
    obtain ⟨down, hsign⟩ : ∃ down, (Mode.mark m).step s = (.sign m down, []) := by
      rcases sign with rfl | rfl
      · exact ⟨_, rfl⟩
      · exact ⟨_, rfl⟩
    have hfirst : ∀ c, c.isDigit = true →
        ∃ next : Mode, next.InPower ∧ (Mode.sign m down).step c = (next, []) := by
      intro c hc
      obtain ⟨d, hdigit⟩ := exists_digit hc
      exact ⟨.power m down d, ⟨_, _, _, rfl⟩, by simp [step, hdigit]⟩
    obtain ⟨next, hnext, hruns⟩ := exists_runs_power hfirst digits
    exact ⟨next, hnext, .cons hmark (.cons hsign hruns)⟩

theorem exists_runs_numeral {mode : Mode} {negative : Bool} (h : mode.OpensNumber negative)
    {whole fraction exponent : List Char} (first : Whole whole) (second : Fraction fraction)
    (third : Exponent exponent) :
    ∃ next : Mode, next.Ends ∧ mode.Runs (whole ++ fraction ++ exponent) next := by
  obtain ⟨a, ha, hfirst⟩ := exists_runs_whole h first
  obtain ⟨b, hb, hsecond⟩ := ha.exists_runs second
  obtain ⟨c, hc, hthird⟩ := hb.exists_runs third
  exact ⟨c, hc, (hfirst.append hsecond).append hthird⟩

end Mode

/-- **A number is a token.** -/
theorem Numeral.exists_token {cs : List Char} (h : Numeral cs) :
    ∃ n, scan .gap [] cs = [.number n] := by
  have hruns : ∃ next : Mode, next.Ends ∧ Mode.gap.Runs cs next := by
    cases h with
    | plain first second third =>
      exact Mode.exists_runs_numeral gap_opensNumber first second third
    | negative first second third =>
      obtain ⟨next, hnext, hruns⟩ :=
        Mode.exists_runs_numeral minus_opensNumber first second third
      exact ⟨next, hnext, .cons rfl hruns⟩
  obtain ⟨next, ⟨n, hn⟩, hruns⟩ := hruns
  have hscan := hruns []
  rw [List.append_nil, scan_nil, hn] at hscan
  exact ⟨n, hscan⟩

/-! ### Reading a string -/

theorem HexDigit.exists_value {c : Char} (h : HexDigit c) : ∃ d, Text.hexDigit? c = some d := by
  unfold Text.hexDigit?
  rcases h with h | h | h
  · exact ⟨_, if_pos h⟩
  · split
    · exact ⟨_, rfl⟩
    · exact ⟨_, if_pos (by simpa using h)⟩
  · split
    · exact ⟨_, rfl⟩
    split
    · exact ⟨_, rfl⟩
    · exact ⟨_, if_pos (by simpa using h)⟩

theorem Inside.exists_runs {cs : List Char} (h : Inside cs) (units : List Nat) :
    ∃ units', (Mode.text units).Runs cs (.text units') := by
  induction h generalizing units with
  | nil => exact ⟨units, .nil _⟩
  | @plain c cs quote backslash visible _ ih =>
    obtain ⟨units', hruns⟩ := ih (c.toNat :: units)
    exact ⟨units', .cons (step_text_plain quote backslash (Nat.not_lt.mpr visible)) hruns⟩
  | @escape c cs letter _ ih =>
    have hunit : c ≠ 'u' ∧ ∃ u, escaped? c = some u := by
      simp only [List.mem_cons, List.not_mem_nil, or_false] at letter
      rcases letter with rfl | rfl | rfl | rfl | rfl | rfl | rfl | rfl
      all_goals exact ⟨by decide, _, rfl⟩
    obtain ⟨hne, u, hu⟩ := hunit
    obtain ⟨units', hruns⟩ := ih (u :: units)
    exact ⟨units', .cons rfl (.cons (by simp [Mode.step, hne, hu]) hruns)⟩
  | @code a b c d cs ha hb hc hd _ ih =>
    obtain ⟨a', ha⟩ := ha.exists_value
    obtain ⟨b', hb⟩ := hb.exists_value
    obtain ⟨c', hc⟩ := hc.exists_value
    obtain ⟨d', hd⟩ := hd.exists_value
    obtain ⟨units', hruns⟩ := ih ((16 * (16 * (16 * (16 * 0 + a') + b') + c') + d') :: units)
    refine ⟨units', .cons rfl (.cons rfl ?_)⟩
    refine .cons (by simp [Mode.step, ha]; rfl) (.cons (by simp [Mode.step, hb]; rfl) ?_)
    exact .cons (by simp [Mode.step, hc]; rfl) (.cons (by simp [Mode.step, hd]) hruns)

/-- **A string is a token.** -/
theorem Literal.exists_token {cs : List Char} (h : Literal cs) :
    ∃ content, scan .gap [] cs = [.string content] := by
  obtain ⟨inside, hinside, rfl⟩ := h
  obtain ⟨units, hruns⟩ := hinside.exists_runs []
  have hopen : Mode.gap.step '"' = (.text [], []) := rfl
  refine ⟨(joinUnits? units.reverse).map String.ofList, ?_⟩
  rw [List.cons_append, scan_cons_nil, hopen, List.nil_append, hruns]
  simp [Mode.step, Mode.finish]

end QuizClient.Json
