import QuizClient.Proofs.Lexing

/-!
# The grammar of JSON and its reader

A JSON text is given here by its grammar: a value is a scalar, or items or members in
brackets or braces with commas between them, and blanks may stand around it.  What the reader
of drafts makes of a text, and all of it, is what the grammar has the text spell.

Between the two stands the grammar of tokens.  The reader is compared with that one, and cuts
at punctuation lead from it to the texts.

## Main definitions

* `Phrase` — a value, some items or some members.
* `Tree` — the tokens of a phrase.
* `Spells` — the texts of a phrase.
* `IsJson` — the texts of JSON, whatever they spell.

## Main results

* `Tree.reads`, `exists_tree` — the reader reads trees, and nothing else to its end.
* `spells_iff_tree` — **the texts of a phrase are those with its tokens.**
* `spells_iff_ofText` — **what a text spells is its draft.**
* `IsJson.exists_spells` — **every text of JSON spells a draft.**
-/

namespace QuizClient.Json

/-! ### Trees of tokens -/

/-- The scalar that a token is. -/
def Token.scalar? : Token → Option Draft
  | .null => some .null
  | .bool b => some (.bool b)
  | .number n => some (.number n)
  | .string s => some (.string s)
  | _ => none

/-- What tokens or a text may spell. -/
inductive Phrase where
  /-- A value. -/
  | value (d : Draft)
  /-- Some items, at least one. -/
  | items (ds : List Draft)
  /-- Some members, at least one. -/
  | members (ms : List (Option String × Draft))

/-- The tokens of a phrase. -/
inductive Tree : List Token → Phrase → Prop where
  /-- A scalar. -/
  | scalar {t : Token} {d : Draft} (token : t.scalar? = some d) : Tree [t] (.value d)
  /-- An array without items. -/
  | emptyArray : Tree [.openBracket, .closeBracket] (.value (.array []))
  /-- An array. -/
  | array {ts : List Token} {ds : List Draft} (items : Tree ts (.items ds)) :
      Tree (.openBracket :: (ts ++ [.closeBracket])) (.value (.array ds))
  /-- An object without members. -/
  | emptyObject : Tree [.openBrace, .closeBrace] (.value (.object []))
  /-- An object. -/
  | object {ts : List Token} {ms : List (Option String × Draft)}
      (members : Tree ts (.members ms)) :
      Tree (.openBrace :: (ts ++ [.closeBrace])) (.value (.object ms))
  /-- A last item. -/
  | lastItem {ts : List Token} {d : Draft} (value : Tree ts (.value d)) : Tree ts (.items [d])
  /-- An item in front of others. -/
  | item {ts us : List Token} {d : Draft} {ds : List Draft} (value : Tree ts (.value d))
      (rest : Tree us (.items ds)) : Tree (ts ++ .comma :: us) (.items (d :: ds))
  /-- A last member. -/
  | lastMember {key : Option String} {ts : List Token} {d : Draft} (value : Tree ts (.value d)) :
      Tree (.string key :: .colon :: ts) (.members [(key, d)])
  /-- A member in front of others. -/
  | member {key : Option String} {ts us : List Token} {d : Draft}
      {ms : List (Option String × Draft)} (value : Tree ts (.value d))
      (rest : Tree us (.members ms)) :
      Tree (.string key :: .colon :: (ts ++ .comma :: us)) (.members ((key, d) :: ms))

/-! ### Reading a tree -/

/-- How a phrase is read, whatever containers are open around it and whatever follows it. -/
def Phrase.Reads (ts : List Token) : Phrase → Prop
  | value d => ∀ stack rest, Draft.value stack (ts ++ rest) = Draft.behind stack d rest
  | items ds => ∀ stack done rest,
      Draft.value (.items done :: stack) (ts ++ .closeBracket :: rest)
        = Draft.behind stack (.array (done.reverse ++ ds)) rest
  | members ms => ∀ stack done rest, Draft.member stack done (ts ++ .closeBrace :: rest)
        = Draft.behind stack (.object (done.reverse ++ ms)) rest

theorem Token.value_scalar {t : Token} {d : Draft} (h : t.scalar? = some d)
    (stack : List Draft.Frame) (rest : List Token) :
    Draft.value stack (t :: rest) = Draft.behind stack d rest := by
  cases t <;> cases h <;> rfl

/-- Neither a value nor items begin with a closing bracket. -/
theorem Tree.ne_closeBracket {ts : List Token} {p : Phrase} (h : Tree ts p)
    (rest us : List Token) : ts ++ rest ≠ .closeBracket :: us := by
  induction h generalizing rest with
  | scalar token =>
    intro heq
    obtain ⟨rfl, -⟩ := List.cons.inj heq
    cases token
  | lastItem _ ih => exact ih rest
  | item _ _ ih _ =>
    rw [List.append_assoc]
    exact ih _
  | _ => nofun

/-- Members begin with a key. -/
theorem Tree.exists_key {ts : List Token} {ms : List (Option String × Draft)}
    (h : Tree ts (.members ms)) : ∃ key us, ts = .string key :: us := by
  cases h with
  | lastMember | member => exact ⟨_, _, rfl⟩

/-- **A tree is read as what it is.** -/
theorem Tree.reads {ts : List Token} {p : Phrase} (h : Tree ts p) : p.Reads ts := by
  induction h with
  | scalar token =>
    intro stack rest
    exact Token.value_scalar token stack rest
  | emptyArray | emptyObject =>
    intro stack rest
    rfl
  | @array ts ds items ih =>
    intro stack rest
    have hopen := value_openBracket stack (items.ne_closeBracket (.closeBracket :: rest))
    rw [List.cons_append, List.append_assoc, List.singleton_append, hopen]
    exact ih stack [] rest
  | @object ts ms members ih =>
    intro stack rest
    obtain ⟨key, us, rfl⟩ := members.exists_key
    rw [List.cons_append, List.append_assoc, List.singleton_append]
    exact ih stack [] rest
  | lastItem _ ih =>
    intro stack done rest
    rw [ih, Draft.behind, List.reverse_cons]
  | item _ _ ih ihrest =>
    intro stack done rest
    rw [List.append_assoc, List.cons_append, ih, Draft.behind, ihrest, List.reverse_cons,
      List.append_assoc]
    rfl
  | lastMember _ ih =>
    intro stack done rest
    rw [List.cons_append, List.cons_append, Draft.member, ih, Draft.behind, List.reverse_cons]
  | member _ _ ih ihrest =>
    intro stack done rest
    rw [List.cons_append, List.cons_append, List.append_assoc, List.cons_append, Draft.member, ih,
      Draft.behind, ihrest, List.reverse_cons, List.append_assoc]
    rfl

/-- Nothing goes wrong in the tokens of a tree. -/
theorem Tree.good {ts : List Token} {p : Phrase} (h : Tree ts p) : .bad ∉ ts := by
  induction h with
  | scalar token =>
    intro hbad
    obtain rfl := List.mem_singleton.mp hbad
    cases token
  | lastItem _ ih => exact ih
  | _ => simp_all

/-- A phrase that does not break off. -/
def Phrase.whole : Phrase → Bool
  | value d => d.whole
  | items ds => Draft.wholeItems ds
  | members ms => Draft.wholeMembers ms

/-- A tree does not break off. -/
theorem Tree.whole {ts : List Token} {p : Phrase} (h : Tree ts p) : p.whole = true := by
  induction h with
  | @scalar t d token => cases t <;> cases token <;> rfl
  | emptyArray | emptyObject => rfl
  | array _ ih | object _ ih => exact ih
  | lastItem _ ih | lastMember _ ih =>
    have hvalue : Draft.whole _ = true := ih
    simp [Phrase.whole, Draft.wholeItems, Draft.wholeMembers, hvalue]
  | item _ _ ih ihrest =>
    have hvalue : Draft.whole _ = true := ih
    have hrest : Draft.wholeItems _ = true := ihrest
    simp [Phrase.whole, Draft.wholeItems, hvalue, hrest]
  | member _ _ ih ihrest =>
    have hvalue : Draft.whole _ = true := ih
    have hrest : Draft.wholeMembers _ = true := ihrest
    simp [Phrase.whole, Draft.wholeMembers, hvalue, hrest]

/-! ### What is read is a tree -/

/-- Some tokens begin with a value. -/
def BeginsValue (ts : List Token) : Prop :=
  ∃ front d back, ts = front ++ back ∧ Tree front (.value d)

/-- Some tokens begin with items and the end of their array. -/
def BeginsItems (ts : List Token) : Prop :=
  ∃ front ds back, ts = front ++ .closeBracket :: back ∧ Tree front (.items ds)

/-- Some tokens begin with members and the end of their object. -/
def BeginsMembers (ts : List Token) : Prop :=
  ∃ front ms back, ts = front ++ .closeBrace :: back ∧ Tree front (.members ms)

section

variable {stack : List Draft.Frame} {ts : List Token}

theorem beginsValue_of_value
    (hitems : ∀ us done, us.length < ts.length →
      (Draft.value (.items done :: stack) us).2 ≠ none → BeginsItems us)
    (hmembers : ∀ us done, us.length < ts.length →
      (Draft.member stack done us).2 ≠ none → BeginsMembers us)
    (h : (Draft.value stack ts).2 ≠ none) : BeginsValue ts := by
  cases ts with
  | nil => exact absurd rfl h
  | cons t ts =>
    cases t with
    | null | bool | number | string => exact ⟨[_], _, ts, rfl, .scalar rfl⟩
    | closeBrace | closeBracket | colon | comma | bad => exact absurd rfl h
    | openBracket =>
      by_cases hclose : ∃ us, ts = .closeBracket :: us
      · obtain ⟨us, rfl⟩ := hclose
        exact ⟨[_, _], _, us, rfl, .emptyArray⟩
      · rw [value_openBracket stack (fun us heq => hclose ⟨us, heq⟩)] at h
        obtain ⟨front, ds, back, rfl, htree⟩ := hitems ts [] (Nat.lt_succ_self _) h
        exact ⟨_, _, back, by simp, .array htree⟩
    | openBrace =>
      by_cases hclose : ∃ us, ts = .closeBrace :: us
      · obtain ⟨us, rfl⟩ := hclose
        exact ⟨[_, _], _, us, rfl, .emptyObject⟩
      · have hopen : Draft.value stack (.openBrace :: ts) = Draft.member stack [] ts := by
          cases ts with
          | nil => rfl
          | cons t ts => cases t <;> first | rfl | exact absurd ⟨ts, rfl⟩ hclose
        rw [hopen] at h
        obtain ⟨front, ms, back, rfl, htree⟩ := hmembers ts [] (Nat.lt_succ_self _) h
        exact ⟨_, _, back, by simp, .object htree⟩

theorem beginsItems_of_value {done : List Draft}
    (hvalue : (Draft.value (.items done :: stack) ts).2 ≠ none → BeginsValue ts)
    (hitems : ∀ us done, us.length < ts.length →
      (Draft.value (.items done :: stack) us).2 ≠ none → BeginsItems us)
    (h : (Draft.value (.items done :: stack) ts).2 ≠ none) : BeginsItems ts := by
  obtain ⟨front, d, back, rfl, htree⟩ := hvalue h
  have hread : Phrase.Reads front (.value d) := htree.reads
  rw [hread] at h
  cases back with
  | nil => exact absurd rfl h
  | cons t back =>
    cases t with
    | comma =>
      obtain ⟨front', ds, back', rfl, htree'⟩ :=
        hitems back (d :: done) (by simp; omega) h
      exact ⟨_, _, back', by simp, .item htree htree'⟩
    | closeBracket => exact ⟨front, _, back, rfl, .lastItem htree⟩
    | _ => exact absurd rfl h

theorem beginsMembers_of_member {done : List (Option String × Draft)}
    (hvalue : ∀ us key, us.length < ts.length →
      (Draft.value (.members done key :: stack) us).2 ≠ none → BeginsValue us)
    (hmembers : ∀ us done, us.length < ts.length →
      (Draft.member stack done us).2 ≠ none → BeginsMembers us)
    (h : (Draft.member stack done ts).2 ≠ none) : BeginsMembers ts := by
  obtain ⟨key, us, rfl⟩ : ∃ key us, ts = .string key :: .colon :: us := by
    unfold Draft.member at h
    split at h
    · exact ⟨_, _, rfl⟩
    · exact absurd rfl h
    · exact absurd rfl h
  rw [Draft.member] at h
  have hlt : us.length < (Token.string key :: .colon :: us).length := by
    simp only [List.length_cons]
    omega
  obtain ⟨front, d, back, rfl, htree⟩ := hvalue us key hlt h
  have hread : Phrase.Reads front (.value d) := htree.reads
  rw [hread] at h
  cases back with
  | nil => exact absurd rfl h
  | cons t back =>
    cases t with
    | comma =>
      obtain ⟨front', ms, back', rfl, htree'⟩ :=
        hmembers back ((key, d) :: done) (by simp; omega) h
      refine ⟨.string key :: .colon :: (front ++ .comma :: front'), (key, d) :: ms, back', ?_, ?_⟩
      · simp
      · exact .member htree htree'
    | closeBrace => exact ⟨_, _, back, rfl, .lastMember htree⟩
    | _ => exact absurd rfl h

end

/-- **What is read to its end is a tree.** -/
theorem exists_tree (ts : List Token) :
    (∀ stack, (Draft.value stack ts).2 ≠ none → BeginsValue ts) ∧
    (∀ stack done, (Draft.value (.items done :: stack) ts).2 ≠ none → BeginsItems ts) ∧
    ∀ stack done, (Draft.member stack done ts).2 ≠ none → BeginsMembers ts := by
  -- every part of a phrase is shorter, but for the value that a list of items begins with
  induction hn : ts.length using Nat.strongRecOn generalizing ts with
  | ind n ih =>
    subst hn
    have hvalue : ∀ stack, (Draft.value stack ts).2 ≠ none → BeginsValue ts := by
      intro stack
      refine beginsValue_of_value ?_ ?_
      · intro us done hlt
        exact (ih _ hlt us rfl).2.1 stack done
      · intro us done hlt
        exact (ih _ hlt us rfl).2.2 stack done
    refine ⟨hvalue, fun stack done => ?_, fun stack done => ?_⟩
    · refine beginsItems_of_value (hvalue _) ?_
      intro us done hlt
      exact (ih _ hlt us rfl).2.1 stack done
    · refine beginsMembers_of_member ?_ ?_
      · intro us key hlt
        exact (ih _ hlt us rfl).1 _
      · intro us done hlt
        exact (ih _ hlt us rfl).2.2 stack done

theorem behind_nil (d : Draft) (ts : List Token) : Draft.behind [] d ts = (d, some ts) := by
  cases ts <;> rfl

/-- The draft of some tokens, and all of them, is what they are the tree of. -/
theorem tree_iff_ofTokens {ts : List Token} {d : Draft} :
    Tree ts (.value d) ↔ Draft.ofTokens ts = (d, true) := by
  constructor
  · intro h
    have hread : Draft.value [] (ts ++ []) = Draft.behind [] d [] := h.reads [] []
    rw [List.append_nil, behind_nil] at hread
    simp [Draft.ofTokens, hread]
  · intro h
    have hvalue : Draft.value [] ts = (d, some []) := by
      simp only [Draft.ofTokens, Prod.mk.injEq, beq_iff_eq] at h
      exact Prod.ext h.1 h.2
    obtain ⟨front, d', back, rfl, htree⟩ := (exists_tree ts).1 [] (by simp [hvalue])
    have hread : Phrase.Reads front (.value d') := htree.reads
    rw [hread, behind_nil, Prod.mk.injEq, Option.some.injEq] at hvalue
    obtain ⟨rfl, rfl⟩ := hvalue
    rwa [List.append_nil]

/-! ### Texts -/

/-- Characters that may stand between tokens. -/
def Blank (w : List Char) : Prop := ∀ c ∈ w, isGap c = true

/-- The texts of a phrase.  A scalar and a key are told by their token. -/
inductive Spells : List Char → Phrase → Prop where
  /-- A scalar. -/
  | scalar {cs : List Char} {t : Token} {d : Draft} (text : scan .gap [] cs = [t])
      (token : t.scalar? = some d) : Spells cs (.value d)
  /-- An array without items. -/
  | emptyArray {w : List Char} (blank : Blank w) :
      Spells ('[' :: (w ++ [']'])) (.value (.array []))
  /-- An array. -/
  | array {cs : List Char} {ds : List Draft} (items : Spells cs (.items ds)) :
      Spells ('[' :: (cs ++ [']'])) (.value (.array ds))
  /-- An object without members. -/
  | emptyObject {w : List Char} (blank : Blank w) :
      Spells ('\x7b' :: (w ++ ['\x7d'])) (.value (.object []))
  /-- An object. -/
  | object {cs : List Char} {ms : List (Option String × Draft)}
      (members : Spells cs (.members ms)) :
      Spells ('\x7b' :: (cs ++ ['\x7d'])) (.value (.object ms))
  /-- Blanks around a value. -/
  | padded {w cs w' : List Char} {d : Draft} (front : Blank w) (value : Spells cs (.value d))
      (back : Blank w') : Spells (w ++ (cs ++ w')) (.value d)
  /-- A last item. -/
  | lastItem {cs : List Char} {d : Draft} (value : Spells cs (.value d)) : Spells cs (.items [d])
  /-- An item in front of others. -/
  | item {cs cs' : List Char} {d : Draft} {ds : List Draft} (value : Spells cs (.value d))
      (rest : Spells cs' (.items ds)) : Spells (cs ++ ',' :: cs') (.items (d :: ds))
  /-- A last member. -/
  | lastMember {name cs : List Char} {key : Option String} {d : Draft}
      (text : scan .gap [] name = [.string key]) (value : Spells cs (.value d)) :
      Spells (name ++ ':' :: cs) (.members [(key, d)])
  /-- A member in front of others. -/
  | member {name cs cs' : List Char} {key : Option String} {d : Draft}
      {ms : List (Option String × Draft)} (text : scan .gap [] name = [.string key])
      (value : Spells cs (.value d)) (rest : Spells cs' (.members ms)) :
      Spells (name ++ ':' :: (cs ++ ',' :: cs')) (.members ((key, d) :: ms))

theorem delimited_of_char {t : Token} {c : Char} (h : t.char? = some c) (cs : List Char) :
    Delimited (c :: cs) := by
  intro d hd
  cases hd
  cases t <;> cases h <;> decide

theorem delimited_of_blank {w : List Char} (h : Blank w) : Delimited w := by
  intro c hc
  have hgap := h c (List.mem_of_mem_head? hc)
  simp only [isGap, Bool.or_eq_true, beq_iff_eq] at hgap
  rcases hgap with ((rfl | rfl) | rfl) | rfl
  all_goals decide

/-- The tokens of two parts with punctuation between them. -/
theorem scan_append_cons {t : Token} {c : Char} (ht : t.char? = some c)
    (hstep : stepGap c = (.gap, [t])) {cs : List Char} (hgood : .bad ∉ scan .gap [] cs)
    (rest : List Char) :
    scan .gap [] (cs ++ c :: rest) = scan .gap [] cs ++ t :: scan .gap [] rest := by
  rw [scan_append Mode.plain_gap nofun hgood (delimited_of_char ht rest), scan_mark hstep]

/-- The tokens of what a text spells are its tree. -/
theorem Spells.tree {cs : List Char} {p : Phrase} (h : Spells cs p) : Tree (scan .gap [] cs) p := by
  induction h with
  | scalar text token =>
    rw [text]
    exact .scalar token
  | emptyArray blank | emptyObject blank =>
    rw [scan_mark rfl, scan_blank_append blank]
    constructor
  | array _ ih =>
    rw [scan_mark rfl, scan_append_cons (t := .closeBracket) rfl rfl ih.good]
    exact .array ih
  | object _ ih =>
    rw [scan_mark rfl, scan_append_cons (t := .closeBrace) rfl rfl ih.good]
    exact .object ih
  | padded front _ back ih =>
    rw [scan_blank_append front,
      scan_append Mode.plain_gap nofun ih.good (delimited_of_blank back), scan_eq_nil_iff.mpr back,
      List.append_nil]
    exact ih
  | lastItem _ ih => exact .lastItem ih
  | item _ _ ih ihrest =>
    rw [scan_append_cons (t := .comma) rfl rfl ih.good]
    exact .item ih ihrest
  | lastMember text _ ih =>
    rw [scan_append_cons (t := .colon) rfl rfl (by simp [text]), text]
    exact .lastMember ih
  | member text _ _ ih ihrest =>
    rw [scan_append_cons (t := .colon) rfl rfl (by simp [text]), text,
      scan_append_cons (t := .comma) rfl rfl ih.good]
    exact .member ih ihrest

/-- A text with an opening and a closing token has its parts between and around them. -/
theorem exists_between {openToken closeToken : Token} {c c' : Char}
    (hopen : openToken.char? = some c) (hclose : closeToken.char? = some c') {cs : List Char}
    {ts : List Token} (h : scan .gap [] cs = openToken :: (ts ++ [closeToken])) :
    ∃ w inside w', cs = w ++ (c :: (inside ++ [c']) ++ w') ∧ Blank w ∧ Blank w' ∧
      scan .gap [] inside = ts := by
  have hfirst : scan .gap [] cs = [] ++ openToken :: (ts ++ [closeToken]) := h
  obtain ⟨w, back, rfl, hw, hback⟩ := exists_cut Mode.plain_gap hopen hfirst
  obtain ⟨inside, w', rfl, hinside, hw'⟩ := exists_cut Mode.plain_gap hclose hback
  refine ⟨w, inside, w', ?_, scan_eq_nil_iff.mp hw, scan_eq_nil_iff.mp hw', hinside⟩
  simp

/-- A text whose tokens are a tree spells what the tree is. -/
theorem Tree.spells {ts : List Token} {p : Phrase} (h : Tree ts p) :
    ∀ cs, scan .gap [] cs = ts → Spells cs p := by
  induction h with
  | scalar token =>
    intro cs hcs
    exact .scalar hcs token
  | emptyArray =>
    intro cs hcs
    have hshape : scan .gap [] cs = .openBracket :: ([] ++ [.closeBracket]) := hcs
    obtain ⟨w, inside, w', rfl, hw, hw', hinside⟩ := exists_between rfl rfl hshape
    exact .padded hw (.emptyArray (scan_eq_nil_iff.mp hinside)) hw'
  | array _ ih =>
    intro cs hcs
    obtain ⟨w, inside, w', rfl, hw, hw', hinside⟩ := exists_between rfl rfl hcs
    exact .padded hw (.array (ih inside hinside)) hw'
  | emptyObject =>
    intro cs hcs
    have hshape : scan .gap [] cs = .openBrace :: ([] ++ [.closeBrace]) := hcs
    obtain ⟨w, inside, w', rfl, hw, hw', hinside⟩ := exists_between rfl rfl hshape
    exact .padded hw (.emptyObject (scan_eq_nil_iff.mp hinside)) hw'
  | object _ ih =>
    intro cs hcs
    obtain ⟨w, inside, w', rfl, hw, hw', hinside⟩ := exists_between rfl rfl hcs
    exact .padded hw (.object (ih inside hinside)) hw'
  | lastItem _ ih =>
    intro cs hcs
    exact .lastItem (ih cs hcs)
  | item _ _ ih ihrest =>
    intro cs hcs
    obtain ⟨front, back, rfl, hfront, hback⟩ := exists_cut Mode.plain_gap rfl hcs
    exact .item (ih front hfront) (ihrest back hback)
  | @lastMember key ts d _ ih =>
    intro cs hcs
    have hshape : scan .gap [] cs = [.string key] ++ .colon :: ts := hcs
    obtain ⟨name, back, rfl, hname, hback⟩ := exists_cut Mode.plain_gap rfl hshape
    exact .lastMember hname (ih back hback)
  | @member key ts us d ms _ _ ih ihrest =>
    intro cs hcs
    have hshape : scan .gap [] cs = [.string key] ++ .colon :: (ts ++ .comma :: us) := hcs
    obtain ⟨name, back, rfl, hname, hback⟩ := exists_cut Mode.plain_gap rfl hshape
    obtain ⟨front, back, rfl, hfront, hback⟩ := exists_cut Mode.plain_gap rfl hback
    exact .member hname (ih front hfront) (ihrest back hback)

/-- **The texts of a phrase are those with its tokens.** -/
theorem spells_iff_tree {cs : List Char} {p : Phrase} : Spells cs p ↔ Tree (scan .gap [] cs) p :=
  ⟨fun h => h.tree, fun h => h.spells cs rfl⟩

/-- **What a text spells is its draft**, with nothing behind it. -/
theorem spells_iff_ofText {s : String} {d : Draft} :
    Spells s.toList (.value d) ↔ Draft.ofText s = (d, true) :=
  spells_iff_tree.trans tree_iff_ofTokens

/-! ### The texts of JSON -/

/-- The forms of phrases. -/
inductive Form where
  /-- A value. -/
  | value
  /-- Some items. -/
  | items
  /-- Some members. -/
  | members

/-- The form of a phrase. -/
def Phrase.form : Phrase → Form
  | value _ => .value
  | items _ => .items
  | members _ => .members

/-- The texts of JSON: values, and the items and members in them. -/
inductive IsJson : List Char → Form → Prop where
  /-- A word. -/
  | word {cs : List Char} (h : cs ∈ ["null".toList, "true".toList, "false".toList]) :
      IsJson cs .value
  /-- A number. -/
  | number {cs : List Char} (h : Numeral cs) : IsJson cs .value
  /-- A string. -/
  | string {cs : List Char} (h : Literal cs) : IsJson cs .value
  /-- An array without items. -/
  | emptyArray {w : List Char} (blank : Blank w) : IsJson ('[' :: (w ++ [']'])) .value
  /-- An array. -/
  | array {cs : List Char} (items : IsJson cs .items) : IsJson ('[' :: (cs ++ [']'])) .value
  /-- An object without members. -/
  | emptyObject {w : List Char} (blank : Blank w) : IsJson ('\x7b' :: (w ++ ['\x7d'])) .value
  /-- An object. -/
  | object {cs : List Char} (members : IsJson cs .members) :
      IsJson ('\x7b' :: (cs ++ ['\x7d'])) .value
  /-- Blanks around a value. -/
  | padded {w cs w' : List Char} (front : Blank w) (value : IsJson cs .value) (back : Blank w') :
      IsJson (w ++ (cs ++ w')) .value
  /-- A last item. -/
  | lastItem {cs : List Char} (value : IsJson cs .value) : IsJson cs .items
  /-- An item in front of others. -/
  | item {cs cs' : List Char} (value : IsJson cs .value) (rest : IsJson cs' .items) :
      IsJson (cs ++ ',' :: cs') .items
  /-- A last member, with blanks around its key. -/
  | lastMember {w name w' cs : List Char} (front : Blank w) (key : Literal name) (back : Blank w')
      (value : IsJson cs .value) : IsJson (w ++ (name ++ w') ++ ':' :: cs) .members
  /-- A member in front of others. -/
  | member {w name w' cs cs' : List Char} (front : Blank w) (key : Literal name) (back : Blank w')
      (value : IsJson cs .value) (rest : IsJson cs' .members) :
      IsJson (w ++ (name ++ w') ++ ':' :: (cs ++ ',' :: cs')) .members

/-- A string with blanks around it is a token. -/
theorem Literal.exists_token_padded {w name w' : List Char} (front : Blank w) (h : Literal name)
    (back : Blank w') : ∃ key, scan .gap [] (w ++ (name ++ w')) = [.string key] := by
  obtain ⟨key, hkey⟩ := h.exists_token
  refine ⟨key, ?_⟩
  rw [scan_blank_append front,
    scan_append Mode.plain_gap nofun (by simp [hkey]) (delimited_of_blank back),
    scan_eq_nil_iff.mpr back, hkey]
  rfl

/-- **Every text of JSON spells a draft**, whatever its nesting and its numbers. -/
theorem IsJson.exists_spells {cs : List Char} {form : Form} (h : IsJson cs form) :
    ∃ p : Phrase, p.form = form ∧ Spells cs p := by
  induction h with
  | word h =>
    simp only [List.mem_cons, List.not_mem_nil, or_false] at h
    rcases h with rfl | rfl | rfl
    all_goals exact ⟨.value _, rfl, .scalar rfl rfl⟩
  | number h =>
    obtain ⟨n, hn⟩ := h.exists_token
    exact ⟨.value _, rfl, .scalar hn rfl⟩
  | string h =>
    obtain ⟨content, hcontent⟩ := h.exists_token
    exact ⟨.value _, rfl, .scalar hcontent rfl⟩
  | emptyArray blank => exact ⟨_, rfl, .emptyArray blank⟩
  | emptyObject blank => exact ⟨_, rfl, .emptyObject blank⟩
  | array _ ih =>
    obtain ⟨p, hp, hspells⟩ := ih
    cases p <;> cases hp
    exact ⟨_, rfl, .array hspells⟩
  | object _ ih =>
    obtain ⟨p, hp, hspells⟩ := ih
    cases p <;> cases hp
    exact ⟨_, rfl, .object hspells⟩
  | padded front _ back ih =>
    obtain ⟨p, hp, hspells⟩ := ih
    cases p <;> cases hp
    exact ⟨_, rfl, .padded front hspells back⟩
  | lastItem _ ih =>
    obtain ⟨p, hp, hspells⟩ := ih
    cases p <;> cases hp
    exact ⟨_, rfl, .lastItem hspells⟩
  | item _ _ ih ihrest =>
    obtain ⟨p, hp, hspells⟩ := ih
    obtain ⟨q, hq, hrest⟩ := ihrest
    cases p <;> cases hp
    cases q <;> cases hq
    exact ⟨_, rfl, .item hspells hrest⟩
  | lastMember front key back _ ih =>
    obtain ⟨key, hkey⟩ := key.exists_token_padded front back
    obtain ⟨p, hp, hspells⟩ := ih
    cases p <;> cases hp
    exact ⟨_, rfl, .lastMember hkey hspells⟩
  | member front key back _ _ ih ihrest =>
    obtain ⟨key, hkey⟩ := key.exists_token_padded front back
    obtain ⟨p, hp, hspells⟩ := ih
    obtain ⟨q, hq, hrest⟩ := ihrest
    cases p <;> cases hp
    cases q <;> cases hq
    exact ⟨_, rfl, .member hkey hspells hrest⟩

end QuizClient.Json
