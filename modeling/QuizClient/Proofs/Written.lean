import QuizClient.Json.Record
import QuizClient.Json.Token.Lemmas

/-!
# Reading back a written value

The compact text of a value holds one draft and nothing else, and the draft keeps the
value, with the members of every object in key order.  This needs the numbers of the value
to be integers of 64 bits, since a decimal may be written in another way than it was read,
and the nesting to stay within the limit.

A number ends where the next character cannot belong to it, so what is read of a number
depends on what follows it.  In a written value that is a comma, a closing bracket, a
closing brace or the end of the text.

## Main definitions

* `Delimited` — a number in front of these characters ends there.
* `Value.Fits` — the values that are read back, by how deep they nest.
* `Value.ReadBack` — a written value is read as its draft.
* `Value.draft` — the draft of a written value.
* `Value.sorted` — a value with the members of every object in key order.

## Main results

* `scan_integer` — a written integer is its own token.
* `Fits.readBack` — a written value is read as its draft, in any place.
* `Fits.ofText_text` — a text that holds a written value and nothing else.
* `Fits.keep?_draft` — the draft keeps the value in key order.
-/

namespace QuizClient.Json

open Text

/-! ### Integers -/

/-- A number in front of these characters ends there. -/
def Delimited (cs : List Char) : Prop :=
  ∀ c ∈ cs.head?, digit? c = none ∧ c ≠ '.' ∧ isMark c = false

/-- In this mode the first digit of a number is read, with this sign in front of it. -/
def Mode.OpensNumber (mode : Mode) (negative : Bool) : Prop :=
  ∀ d < 10, mode.step (Nat.digitChar d) = (.whole ⟨negative, d, 0⟩, [])

theorem gap_opensNumber : Mode.gap.OpensNumber false := by
  unfold Mode.OpensNumber
  decide

theorem minus_opensNumber : Mode.minus.OpensNumber true := by
  unfold Mode.OpensNumber
  decide

theorem digit?_digitChar : ∀ d < 10, digit? (Nat.digitChar d) = some d := by decide

/-- One more digit behind digits that are not just a zero. -/
theorem step_whole_digit {negative : Bool} {m d : Nat} (hm : 0 < m) (hd : d < 10)
    (hs : 10 * m + d < UInt64.size) :
    (Mode.whole ⟨negative, m, 0⟩).step (Nat.digitChar d)
      = (.whole ⟨negative, 10 * m + d, 0⟩, []) := by
  have hne : m ≠ 0 := by omega
  simp [Mode.step, digit?_digitChar d hd, hne, Mantissa.push?, hs]

/-- Digits are read up to the number that they write. -/
theorem scan_decimal {mode : Mode} {negative : Bool} (h : mode.OpensNumber negative)
    (done : List Token) {n : Nat} (hn : n < UInt64.size) (rest : List Char) :
    scan mode done (decimal n ++ rest) = scan (.whole ⟨negative, n, 0⟩) done rest := by
  -- the last digit stands behind the digits of a tenth of the number
  induction n using Nat.strongRecOn generalizing rest with
  | ind n ih =>
    by_cases hlt : n < 10
    · rw [decimal, Nat.toDigits_of_lt_base hlt, List.singleton_append, scan_cons, h n hlt]
      rfl
    · have htenth : n / 10 < n := by omega
      have hdigits : decimal n = decimal (n / 10) ++ [Nat.digitChar (n % 10)] :=
        Nat.toDigits_of_base_le (by decide) (by omega)
      have hsplit : 10 * (n / 10) + n % 10 = n := Nat.div_add_mod n 10
      rw [hdigits, List.append_assoc, ih _ htenth (by omega), List.singleton_append, scan_cons,
        step_whole_digit (by omega) (by omega) (by omega), hsplit]
      rfl

/-- A number ends in front of a character that cannot belong to it. -/
theorem scan_whole_of_delimited (done : List Token) (m : Mantissa) {rest : List Char}
    (h : Delimited rest) :
    scan (.whole m) done rest = scan .gap (.number m.integer :: done) rest := by
  cases rest with
  | nil => simp [Mode.finish]
  | cons c rest =>
    obtain ⟨hdigit, hpoint, hmark⟩ := h c rfl
    have hstep : (Mode.whole m).step c = stepBehind m.integer c := by
      simp [Mode.step, hdigit, hpoint, hmark]
    rw [scan_cons, scan_cons, hstep]
    simp [stepBehind, Mode.step]

/-- **A written integer is its own token**, if it fits 64 bits. -/
theorem scan_integer (done : List Token) {i : Int} (hlow : Int64.minValue.toInt ≤ i)
    (hhigh : i < UInt64.size) {rest : List Char} (h : Delimited rest) :
    scan .gap done (decimalInt i ++ rest) = scan .gap (.number (.integer i) :: done) rest := by
  cases i with
  | ofNat n =>
    have hn : n < UInt64.size := Int.ofNat_lt.mp hhigh
    rw [decimalInt, scan_decimal gap_opensNumber done hn, scan_whole_of_delimited done _ h]
    rfl
  | negSucc n =>
    have hn : n + 1 ≤ Nat.pow 2 63 := by
      rw [Int64.toInt_minValue] at hlow
      show n + 1 ≤ 2 ^ 63
      omega
    have hsize : n + 1 < UInt64.size := Nat.lt_of_le_of_lt hn (by decide)
    have hminus : Mode.gap.step '-' = (.minus, []) := rfl
    have hinteger : Mantissa.integer ⟨true, n + 1, 0⟩ = .integer (.negSucc n) := by
      rw [Mantissa.integer, if_pos rfl, if_pos ⟨Nat.succ_pos n, hn⟩]
      rfl
    rw [decimalInt, List.cons_append, scan_cons, hminus, List.reverse_nil, List.nil_append,
      scan_decimal minus_opensNumber done hsize, scan_whole_of_delimited done _ h, hinteger]

/-! ### The draft of a written value -/

namespace Value

/-- The values that are read back from their text, when containers nest at most `depth`
levels: every number is an integer of 64 bits. -/
inductive Fits : Nat → Value → Prop where
  | null {depth : Nat} : Fits depth .null
  | bool {depth : Nat} (b : Bool) : Fits depth (.bool b)
  | integer {depth : Nat} {i : Int} (low : Int64.minValue.toInt ≤ i) (high : i < UInt64.size) :
      Fits depth (.number (.integer i))
  | string {depth : Nat} (s : String) : Fits depth (.string s)
  | array {depth : Nat} {vs : List Value} (items : ∀ v ∈ vs, Fits depth v) :
      Fits (depth + 1) (.array vs)
  | object {depth : Nat} {ms : List (String × Value)} (members : ∀ m ∈ ms, Fits depth m.2) :
      Fits (depth + 1) (.object ms)

mutual

/-- The draft of a written value. -/
def draft : Value → Draft
  | .null => .null
  | .bool b => .bool b
  | .number n => .number n
  | .string s => .string (some s)
  | .array vs => .array (draftItems vs)
  | .object ms => .object (draftMembers ms)

/-- The drafts of some items. -/
def draftItems : List Value → List Draft
  | [] => []
  | v :: vs => v.draft :: draftItems vs

/-- The drafts of some members. -/
def draftMembers : List (String × Value) → List (Option String × Draft)
  | [] => []
  | (k, v) :: ms => (some k, v.draft) :: draftMembers ms

end

mutual

/-- A value with the members of every object in key order; of a repeated key the last
value stays. -/
def sorted : Value → Value
  | .null => .null
  | .bool b => .bool b
  | .number n => .number n
  | .string s => .string s
  | .array vs => .array (sortedItems vs)
  | .object ms => .object (Keyed.ofList (sortedMembers ms))

/-- Some items, each in key order. -/
def sortedItems : List Value → List Value
  | [] => []
  | v :: vs => v.sorted :: sortedItems vs

/-- Some members as they stand, each value in key order. -/
def sortedMembers : List (String × Value) → List (String × Value)
  | [] => []
  | (k, v) :: ms => (k, v.sorted) :: sortedMembers ms

end

theorem draftItems_eq_map (vs : List Value) : draftItems vs = vs.map draft := by
  induction vs with
  | nil => rfl
  | cons v vs ih => rw [draftItems, ih, List.map_cons]

theorem draftMembers_eq_map (ms : List (String × Value)) :
    draftMembers ms = ms.map fun m => (some m.1, m.2.draft) := by
  induction ms with
  | nil => rfl
  | cons m ms ih => rw [draftMembers, ih, List.map_cons]

theorem sortedItems_eq_map (vs : List Value) : sortedItems vs = vs.map sorted := by
  induction vs with
  | nil => rfl
  | cons v vs ih => rw [sortedItems, ih, List.map_cons]

theorem sortedMembers_eq_map (ms : List (String × Value)) :
    sortedMembers ms = ms.map fun m => (m.1, m.2.sorted) := by
  induction ms with
  | nil => rfl
  | cons m ms ih => rw [sortedMembers, ih, List.map_cons]

/-! ### Reading a written value -/

/-- A written value is read as its draft, whatever containers are open around it and
whatever follows it, and it does not look like the end of an array. -/
structure ReadBack (v : Value) : Prop where
  /-- It is read as its draft. -/
  read : ∀ stack rest, Delimited rest →
    Draft.value stack (scan .gap [] (v.chars ++ rest))
      = Draft.behind stack v.draft (scan .gap [] rest)
  /-- It does not begin with a closing bracket. -/
  begins : ∀ rest, Delimited rest → ∀ ts, scan .gap [] (v.chars ++ rest) ≠ .closeBracket :: ts

end Value

/-- A character that is a token. -/
theorem scan_mark {c : Char} {t : Token} (h : Mode.gap.step c = (.gap, [t])) (cs : List Char) :
    scan .gap [] (c :: cs) = t :: scan .gap [] cs := by
  rw [scan_cons, h, scan_eq_append]
  rfl

/-- A written key with its colon. -/
theorem scan_key (k : String) (cs : List Char) :
    scan .gap [] (Text.Quoted.json k ++ ':' :: cs)
      = .string (some k) :: .colon :: scan .gap [] cs := by
  rw [scan_quoted, scan_eq_append, scan_mark rfl]
  rfl

theorem delimited_charsItems (vs : List Value) (rest : List Char) :
    Delimited (Value.charsItems vs ++ rest) := by
  cases vs <;> simp [Delimited, Value.charsItems] <;> decide

theorem delimited_charsMembers (ms : List (String × Value)) (rest : List Char) :
    Delimited (Value.charsMembers ms ++ rest) := by
  rcases ms with _ | ⟨m, ms⟩ <;> simp [Delimited, Value.charsMembers] <;> decide

theorem value_openBracket (stack : List Draft.Frame) {ts : List Token}
    (h : ∀ us, ts ≠ .closeBracket :: us) :
    Draft.value stack (.openBracket :: ts) = Draft.value (.items [] :: stack) ts := by
  cases ts with
  | nil => rfl
  | cons t ts => cases t <;> first | rfl | exact absurd rfl (h ts)

/-- The items behind the first are read one by one. -/
theorem behind_scan_charsItems {vs : List Value} (h : ∀ v ∈ vs, v.ReadBack)
    (stack : List Draft.Frame) (done : List Draft) (d : Draft) (rest : List Char) :
    Draft.behind (.items done :: stack) d (scan .gap [] (Value.charsItems vs ++ rest))
      = Draft.behind stack (.array (done.reverse ++ d :: vs.map Value.draft))
          (scan .gap [] rest) := by
  induction vs generalizing done d with
  | nil =>
    rw [Value.charsItems, List.singleton_append, scan_mark rfl, Draft.behind, List.reverse_cons]
    rfl
  | cons v vs ih =>
    obtain ⟨hv, hvs⟩ := List.forall_mem_cons.mp h
    rw [Value.charsItems, List.cons_append, List.cons_append, List.append_assoc, scan_mark rfl,
      Draft.behind, hv.read _ _ (delimited_charsItems vs rest), ih hvs]
    simp

/-- The members behind the first are read one by one. -/
theorem behind_scan_charsMembers {ms : List (String × Value)} (h : ∀ m ∈ ms, m.2.ReadBack)
    (stack : List Draft.Frame) (done : List (Option String × Draft)) (key : Option String)
    (d : Draft) (rest : List Char) :
    Draft.behind (.members done key :: stack) d (scan .gap [] (Value.charsMembers ms ++ rest))
      = Draft.behind stack
          (.object (done.reverse ++ (key, d) :: ms.map fun m => (some m.1, m.2.draft)))
          (scan .gap [] rest) := by
  induction ms generalizing done key d with
  | nil =>
    rw [Value.charsMembers, List.singleton_append, scan_mark rfl, Draft.behind, List.reverse_cons]
    rfl
  | cons m ms ih =>
    obtain ⟨k, v⟩ := m
    obtain ⟨hv, hms⟩ := List.forall_mem_cons.mp h
    simp only [Value.charsMembers, List.cons_append, List.append_assoc]
    rw [scan_mark rfl, Draft.behind, scan_key, Draft.member,
      hv.read _ _ (delimited_charsMembers ms rest), ih hms]
    simp

namespace Value

/-- What begins with some token is read back if that token with what follows is. -/
theorem ReadBack.of_scan {v : Value} (t : Token) (tail : List Char → List Token)
    (ht : t ≠ .closeBracket)
    (hscan : ∀ rest, Delimited rest → scan .gap [] (v.chars ++ rest) = t :: tail rest)
    (hread : ∀ stack rest, Draft.value stack (t :: tail rest)
      = Draft.behind stack v.draft (scan .gap [] rest)) : v.ReadBack where
  read stack rest h := by rw [hscan rest h, hread]
  begins rest h ts heq := by
    rw [hscan rest h] at heq
    exact ht (List.cons.inj heq).1

theorem readBack_array {vs : List Value} (h : ∀ v ∈ vs, v.ReadBack) :
    (Value.array vs).ReadBack := by
  cases vs with
  | nil =>
    refine .of_scan .openBracket (fun rest => .closeBracket :: scan .gap [] rest) (by decide)
      (fun rest _ => ?_) fun stack rest => ?_
    · rw [chars, List.cons_append, List.cons_append, List.nil_append, scan_mark rfl, scan_mark rfl]
    · rfl
  | cons v vs =>
    obtain ⟨hv, hvs⟩ := List.forall_mem_cons.mp h
    refine .of_scan .openBracket (fun rest => scan .gap [] (v.chars ++ (charsItems vs ++ rest)))
      (by decide) (fun rest _ => ?_) fun stack rest => ?_
    · rw [chars, List.cons_append, List.cons_append, List.append_assoc, scan_mark rfl]
    · have hend := delimited_charsItems vs rest
      rw [value_openBracket _ (hv.begins _ hend), hv.read _ _ hend, behind_scan_charsItems hvs,
        draft, draftItems_eq_map]
      rfl

theorem readBack_object {ms : List (String × Value)} (h : ∀ m ∈ ms, m.2.ReadBack) :
    (Value.object ms).ReadBack := by
  cases ms with
  | nil =>
    refine .of_scan .openBrace (fun rest => .closeBrace :: scan .gap [] rest) (by decide)
      (fun rest _ => ?_) fun stack rest => ?_
    · rw [chars, List.cons_append, List.cons_append, List.nil_append, scan_mark rfl, scan_mark rfl]
    · rfl
  | cons m ms =>
    obtain ⟨k, v⟩ := m
    obtain ⟨hv, hms⟩ := List.forall_mem_cons.mp h
    refine .of_scan .openBrace (fun rest => .string (some k) :: .colon ::
      scan .gap [] (v.chars ++ (charsMembers ms ++ rest))) (by decide) (fun rest _ => ?_)
      fun stack rest => ?_
    · simp only [chars, List.cons_append, List.append_assoc]
      rw [scan_mark rfl, scan_key]
    · have hopen : ∀ ts, Draft.value stack (.openBrace :: .string (some k) :: .colon :: ts)
          = Draft.value (.members [] (some k) :: stack) ts := fun _ => rfl
      rw [hopen, hv.read _ _ (delimited_charsMembers ms rest), behind_scan_charsMembers hms, draft,
        draftMembers_eq_map]
      rfl

/-- **A written value is read as its draft**, in any place. -/
theorem Fits.readBack {depth : Nat} {v : Value} (h : v.Fits depth) : v.ReadBack := by
  induction h with
  | null =>
    exact .of_scan .null _ (by decide) (fun rest _ => scan_eq_append _ _ rest) fun _ _ => rfl
  | bool b =>
    refine .of_scan (.bool b) _ (by simp) (fun rest _ => ?_) fun _ _ => rfl
    cases b with
    | true => exact scan_eq_append _ [.bool true] rest
    | false => exact scan_eq_append _ [.bool false] rest
  | @integer _ i low high =>
    refine .of_scan (.number (.integer i)) _ (by simp) (fun rest hrest => ?_) fun _ _ => rfl
    rw [chars, Number.chars, scan_integer [] low high hrest, scan_eq_append]
    rfl
  | string s =>
    refine .of_scan (.string (some s)) _ (by simp) (fun rest _ => ?_) fun _ _ => rfl
    rw [chars, scan_quoted, scan_eq_append]
    rfl
  | array _ ih => exact readBack_array ih
  | object _ ih => exact readBack_object ih

/-- **A text that holds a written value holds its draft and nothing else.** -/
theorem Fits.ofText_text {depth : Nat} {v : Value} (h : v.Fits depth) :
    Draft.ofText v.text = (v.draft, true) := by
  have hend : Delimited [] := by simp [Delimited]
  have hread := h.readBack.read [] [] hend
  rw [List.append_nil] at hread
  simp only [Draft.ofText, Draft.ofTokens, tokens, text, String.toList_ofList, hread]
  rfl

/-! ### Keeping a written value -/

theorem keepItems?_draft {depth : Nat} {vs : List Value}
    (h : ∀ v ∈ vs, Draft.keep? depth v.draft = some v.sorted) :
    Draft.keepItems? depth (draftItems vs) = some (sortedItems vs) := by
  induction vs with
  | nil => rfl
  | cons v vs ih =>
    obtain ⟨hv, hvs⟩ := List.forall_mem_cons.mp h
    rw [draftItems, Draft.keepItems?, hv, ih hvs]
    rfl

theorem keepMembers?_draft {depth : Nat} {ms : List (String × Value)}
    (h : ∀ m ∈ ms, Draft.keep? depth m.2.draft = some m.2.sorted) :
    Draft.keepMembers? depth (draftMembers ms) = some (sortedMembers ms) := by
  induction ms with
  | nil => rfl
  | cons m ms ih =>
    obtain ⟨k, v⟩ := m
    obtain ⟨hv, hms⟩ := List.forall_mem_cons.mp h
    rw [draftMembers, Draft.keepMembers?, hv, ih hms]
    rfl

/-- **The draft of a written value keeps it**, in key order. -/
theorem Fits.keep?_draft {depth : Nat} {v : Value} (h : v.Fits depth) :
    Draft.keep? depth v.draft = some v.sorted := by
  induction h with
  | null => simp [draft, sorted, Draft.keep?]
  | bool b => simp [draft, sorted, Draft.keep?]
  | integer low high => simp [draft, sorted, Draft.keep?, Number.inRange]
  | string s => simp [draft, sorted, Draft.keep?]
  | array _ ih => simp [draft, sorted, Draft.keep?, keepItems?_draft ih]
  | object _ ih => simp [draft, sorted, Draft.keep?, keepMembers?_draft ih]

/-- Deeper limits let more pass. -/
theorem Fits.mono {depth depth' : Nat} {v : Value} (h : v.Fits depth) (hle : depth ≤ depth') :
    v.Fits depth' := by
  induction h generalizing depth' with
  | null => exact .null
  | bool b => exact .bool b
  | integer low high => exact .integer low high
  | string s => exact .string s
  | array _ ih =>
    obtain ⟨n, rfl⟩ := Nat.exists_eq_add_of_lt hle
    exact .array fun v hv => ih v hv (by omega)
  | object _ ih =>
    obtain ⟨n, rfl⟩ := Nat.exists_eq_add_of_lt hle
    exact .object fun m hm => ih m hm (by omega)

end Value

end QuizClient.Json
