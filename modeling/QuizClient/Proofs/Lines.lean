import QuizClient.Client.Action
import QuizClient.Console.Writer
import QuizClient.Proofs.Codecs

/-!
# Frames as lines

A frame is written as one line, so it must not hold the end of a line itself.  It holds
no control character at all: whatever a player types, the text of a value escapes it.
In UTF-8 the byte that ends a line stands for nothing but the end of a line, so the lines
that a writer puts out give the frames back, and a writer that fails on the way has put
out the beginning of the same bytes.

## Main definitions

* `Text.Plain` — a text without control characters.
* `Writer.linesOf` — frames as lines, in bytes.

## Main results

* `Fits.plain` — the text of a value is plain.
* `frame_plain`, `tokenFrame_plain` — so is every frame.
* `lineFeed_not_mem_toUtf8` — no line ends inside a plain text.
* `splitOn_linesOf` — the lines of plain frames give the frames back.
* `lines_unlimited`, `lines_bytes`, `lines_prefix` — what a writer puts out, by its
  budget.
-/

namespace QuizClient

/-! ### Plain texts -/

namespace Text

/-- No character is a control character, those below the space. -/
def Plain (cs : List Char) : Prop := ∀ c ∈ cs, 0x20 ≤ c.toNat

instance (cs : List Char) : Decidable (Plain cs) := List.decidableBAll _ cs

theorem Plain.append {cs ds : List Char} (hc : Plain cs) (hd : Plain ds) : Plain (cs ++ ds) :=
  List.forall_mem_append.mpr ⟨hc, hd⟩

theorem Plain.cons {c : Char} {cs : List Char} (hc : 0x20 ≤ c.toNat) (h : Plain cs) :
    Plain (c :: cs) :=
  List.forall_mem_cons.mpr ⟨hc, h⟩

/-- A digit of a code point that is escaped is no control character. -/
theorem hexDigit_plain : ∀ n < 16, 0x20 ≤ (Quoted.hexDigit n).toNat := by decide

/-- Control characters are escaped. -/
theorem jsonChar_plain (c : Char) : Plain (Quoted.jsonChar c) := by
  by_cases hlow : c.toNat < 0x20
  · have hhigh : 0x20 ≤ (Quoted.hexDigit (c.toNat / 16)).toNat := hexDigit_plain _ (by omega)
    have hrest : 0x20 ≤ (Quoted.hexDigit (c.toNat % 16)).toNat := hexDigit_plain _ (by omega)
    unfold Quoted.jsonChar
    -- the escapes with a letter of their own are closed texts, the others have two digits
    repeat' split
    all_goals first | decide | skip
    exact .cons (by decide) (.cons (by decide) (.cons (by decide) (.cons (by decide)
      (.cons hhigh (.cons hrest nofun)))))
  · unfold Quoted.jsonChar
    repeat' split
    all_goals first | decide | skip
    exact .cons (Nat.le_of_not_lt hlow) nofun

theorem json_plain (s : String) : Plain (Quoted.json s) := by
  refine .cons (by decide) (.append ?_ (by decide))
  intro d hd
  obtain ⟨c, -, hd⟩ := List.mem_flatMap.mp hd
  exact jsonChar_plain c d hd

theorem decimal_plain (n : Nat) : Plain (decimal n) := by
  intro c hc
  have hdigit : c.isDigit = true := Nat.isDigit_of_mem_toDigits (by decide) (by decide) hc
  have hzero : '0'.toNat ≤ c.toNat := by
    simp only [Char.isDigit, Bool.and_eq_true, decide_eq_true_eq] at hdigit
    exact hdigit.1
  exact Nat.le_trans (by decide) hzero

theorem decimalInt_plain (i : Int) : Plain (decimalInt i) := by
  cases i with
  | ofNat n => exact decimal_plain n
  | negSucc n => exact .cons (by decide) (decimal_plain (n + 1))

end Text

namespace Json.Value

open Text

theorem charsItems_plain {vs : List Value} (h : ∀ v ∈ vs, Plain v.chars) :
    Plain (charsItems vs) := by
  induction vs with
  | nil => decide
  | cons v vs ih =>
    obtain ⟨hv, hvs⟩ := List.forall_mem_cons.mp h
    exact .cons (by decide) (.append hv (ih hvs))

theorem charsMembers_plain {ms : List (String × Value)} (h : ∀ m ∈ ms, Plain m.2.chars) :
    Plain (charsMembers ms) := by
  induction ms with
  | nil => decide
  | cons m ms ih =>
    obtain ⟨hm, hms⟩ := List.forall_mem_cons.mp h
    have hmember : Plain (Text.Quoted.json m.1 ++ ':' :: m.2.chars) :=
      (json_plain m.1).append (.cons (by decide) hm)
    exact .cons (by decide) (hmember.append (ih hms))

/-- **The text of a value is plain**, whatever its strings hold. -/
theorem Fits.plain {depth : Nat} {v : Value} (h : v.Fits depth) : Plain v.chars := by
  induction h with
  | null => decide
  | bool b => cases b <;> decide
  | integer _ _ => exact decimalInt_plain _
  | string s => exact json_plain s
  | @array _ vs _ ih =>
    cases vs with
    | nil => decide
    | cons v vs =>
      obtain ⟨hv, hvs⟩ := List.forall_mem_cons.mp ih
      exact .cons (by decide) (.append hv (charsItems_plain hvs))
  | @object _ ms _ ih =>
    cases ms with
    | nil => decide
    | cons m ms =>
      obtain ⟨hm, hms⟩ := List.forall_mem_cons.mp ih
      have hmember : Plain (Text.Quoted.json m.1 ++ ':' :: m.2.chars) :=
        (json_plain m.1).append (.cons (by decide) hm)
      exact .cons (by decide) (hmember.append (charsMembers_plain hms))

end Json.Value

open Json

/-! ### Frames -/

/-- What an action writes on the wire can be read. -/
theorem Action.members_fit (a : Action) : ∀ m ∈ a.members, m.2.Fits 0 := by
  cases a with
  | pick column row =>
    exact List.forall_mem_cons.mpr ⟨Codec.fits_ofNat column.toNat_lt 0,
      List.forall_mem_singleton.mpr (Codec.fits_ofNat row.toNat_lt 0)⟩
  | wager amount => exact List.forall_mem_singleton.mpr (Codec.signed_carries 0 amount).fits
  | answer text => exact List.forall_mem_singleton.mpr (.string text)
  | protest player => exact List.forall_mem_singleton.mpr (.string player)
  | _ => exact List.forall_mem_singleton.mpr (.bool _)

theorem Action.frame_fits (phase : Phase) (a : Action) :
    (Value.object (("state", Phase.codec.write phase) :: a.members)).Fits 1 := by
  have hphase : (Phase.codec.write phase).Fits 0 :=
    Codec.fits_ofNat (by cases phase <;> decide) 0
  exact .object (List.forall_mem_cons.mpr ⟨hphase, a.members_fit⟩)

/-- **A frame holds no control character.** -/
theorem Action.frame_plain (phase : Phase) (a : Action) : Text.Plain (a.frame phase).toList := by
  rw [frame, Value.text, String.toList_ofList]
  exact (a.frame_fits phase).plain

theorem tokenFrame_fits (token : String) : (Value.object [("token", .string token)]).Fits 1 :=
  .object (List.forall_mem_singleton.mpr (.string token))

theorem tokenFrame_plain (token : String) : Text.Plain (tokenFrame token).toList := by
  rw [tokenFrame, Value.text, String.toList_ofList]
  exact (tokenFrame_fits token).plain

/-! ### Texts in bytes -/

namespace Text

/-- The bytes from a place on, behind some that are listed already. -/
theorem loop_toList (bs : ByteArray) (i : Nat) (done : List UInt8) :
    ByteArray.toList.loop bs i done = done.reverse ++ bs.data.toList.drop i := by
  rw [ByteArray.toList.loop]
  by_cases hi : i < bs.size
  · have hlen : i < bs.data.toList.length := by rwa [Array.length_toList]
    have hget : bs.get! i = bs.data.toList[i] := by
      rw [ByteArray.get!, getElem!_pos bs.data i hi, Array.getElem_toList]
    rw [if_pos hi, loop_toList bs (i + 1), hget, List.reverse_cons, List.append_assoc,
      List.drop_eq_getElem_cons hlen, List.singleton_append]
  · have hlen : bs.data.toList.length ≤ i := by
      rw [Array.length_toList]
      exact Nat.le_of_not_lt hi
    rw [if_neg hi, List.drop_eq_nil_of_le hlen, List.append_nil]
termination_by bs.size - i

theorem toUtf8_eq_data (s : String) : toUtf8 s = s.toUTF8.data.toList := by
  rw [toUtf8, ByteArray.toList, loop_toList]
  rfl

/-- The bytes of a text are those of its characters, one after the other. -/
theorem toUtf8_eq (s : String) : toUtf8 s = s.toList.flatMap String.utf8EncodeChar := by
  have hbytes : s.toUTF8 = s.toList.utf8Encode := by
    rw [← String.toByteArray_ofList, String.ofList_toList]
    rfl
  rw [toUtf8_eq_data, hbytes, List.utf8Encode, List.data_toByteArray]

/-- The bytes of a text give the text back. -/
theorem ofUtf8?_toUtf8 (s : String) : ofUtf8? (toUtf8 s) = some s := by
  have hbytes : (⟨(toUtf8 s).toArray⟩ : ByteArray) = s.toUTF8 := by
    rw [toUtf8_eq_data, Array.toArray_toList]
  have hvalid : s.toUTF8.IsValidUTF8 := s.isValidUTF8
  rw [ofUtf8?, hbytes, String.fromUTF8?, dif_pos hvalid]
  rfl

/-- A byte below 128 stands for the character with that code. -/
theorem toNat_of_mem_utf8EncodeChar {c : Char} {b : UInt8} (h : b ∈ String.utf8EncodeChar c) :
    b.toNat = c.toNat ∨ 128 ≤ b.toNat := by
  have hc : c.val.toNat = c.toNat := rfl
  unfold String.utf8EncodeChar at h
  simp only [hc] at h
  -- by how many bytes the character takes
  split at h
  · obtain rfl := List.mem_singleton.mp h
    exact .inl (Nat.mod_eq_of_lt (by omega))
  · refine .inr ?_
    split at h
    · simp only [List.mem_cons, List.not_mem_nil, or_false] at h
      rcases h with rfl | rfl <;> simp only [UInt8.toNat_ofNat'] <;> omega
    · split at h
      · simp only [List.mem_cons, List.not_mem_nil, or_false] at h
        rcases h with rfl | rfl | rfl <;> simp only [UInt8.toNat_ofNat'] <;> omega
      · simp only [List.mem_cons, List.not_mem_nil, or_false] at h
        rcases h with rfl | rfl | rfl | rfl <;> simp only [UInt8.toNat_ofNat'] <;> omega

/-- **No line ends inside a plain text.** -/
theorem lineFeed_not_mem_toUtf8 {s : String} (h : Plain s.toList) : lineFeed ∉ toUtf8 s := by
  rw [toUtf8_eq, List.mem_flatMap]
  rintro ⟨c, hc, hmem⟩
  have hplain : 0x20 ≤ c.toNat := h c hc
  have hbyte : lineFeed.toNat = 10 := rfl
  rcases toNat_of_mem_utf8EncodeChar hmem with hsame | hhigh <;> omega

end Text

/-! ### Lines -/

namespace Writer

open Text

/-- Frames as lines, in bytes. -/
def linesOf (fs : List String) : List UInt8 := fs.flatMap fun f => toUtf8 f ++ [lineFeed]

theorem linesOf_cons (f : String) (fs : List String) :
    linesOf (f :: fs) = toUtf8 f ++ [lineFeed] ++ linesOf fs := rfl

/-- **The lines of plain frames give the frames back**, and nothing stands behind the last
of them. -/
theorem splitOn_linesOf {fs : List String} (h : ∀ f ∈ fs, Plain f.toList) :
    ((linesOf fs).splitOn lineFeed).map ofUtf8? = (fs ++ [""]).map some := by
  induction fs with
  | nil =>
    have hempty : ofUtf8? [] = some "" := by simpa [toUtf8_eq] using ofUtf8?_toUtf8 ""
    simp [linesOf, hempty]
  | cons f fs ih =>
    obtain ⟨hf, hfs⟩ := List.forall_mem_cons.mp h
    have hline : (toUtf8 f).splitOn lineFeed = [toUtf8 f] :=
      List.splitOn_eq_singleton (lineFeed_not_mem_toUtf8 hf)
    have hsplit : (linesOf (f :: fs)).splitOn lineFeed
        = (toUtf8 f).splitOn lineFeed ++ (linesOf fs).splitOn lineFeed := by
      rw [linesOf_cons, List.append_assoc]
      exact List.splitOnP_append_cons _ _ (beq_self_eq_true _)
    rw [hsplit, hline, List.map_append, ih hfs]
    simp [ofUtf8?_toUtf8]

/-! ### What a writer puts out -/

theorem put_of_failed {w : Writer} (h : w.working = false) (bytes : List UInt8) :
    w.put bytes = (w, []) := by
  simp [put, h]

theorem lines_of_failed {w : Writer} (h : w.working = false) (fs : List String) :
    w.lines fs = (w, []) := by
  induction fs with
  | nil => rfl
  | cons f fs ih =>
    have hline : w.line f = (w, []) := by simp [line, put_of_failed h]
    rw [lines_cons, hline, ih]
    rfl

theorem lines_append (w : Writer) (fs gs : List String) :
    w.lines (fs ++ gs) =
      (((w.lines fs).1.lines gs).1, (w.lines fs).2 ++ ((w.lines fs).1.lines gs).2) := by
  induction fs generalizing w with
  | nil => rfl
  | cons f fs ih => simp [ih]

/-- One write succeeds as a whole, or fails on the way. -/
theorem put_cases (w : Writer) (bytes : List UInt8) :
    (w.put bytes).1.working = true ∧ (w.put bytes).2 = bytes ∨
      (w.put bytes).1.working = false ∧ (w.put bytes).2 <+: bytes := by
  cases hw : w.working with
  | false =>
    rw [put_of_failed hw]
    exact .inr ⟨hw, List.nil_prefix⟩
  | true =>
    unfold put
    rw [if_pos hw]
    cases w.budget with
    | unlimited => exact .inl ⟨hw, rfl⟩
    | writes left =>
      cases left with
      | zero => exact .inr ⟨rfl, List.nil_prefix⟩
      | succ left => exact .inl ⟨rfl, rfl⟩
    | bytes left =>
      by_cases hfits : bytes.length ≤ left
      · simp [hfits]
      · simp [hfits, List.take_prefix]

/-- So does one line. -/
theorem line_cases (w : Writer) (f : String) :
    (w.line f).1.working = true ∧ (w.line f).2 = toUtf8 f ++ [lineFeed] ∨
      (w.line f).1.working = false ∧ (w.line f).2 <+: toUtf8 f ++ [lineFeed] := by
  have hline : w.line f =
      (((w.put (toUtf8 f)).1.put [lineFeed]).1,
        (w.put (toUtf8 f)).2 ++ ((w.put (toUtf8 f)).1.put [lineFeed]).2) := rfl
  rw [hline]
  rcases put_cases w (toUtf8 f) with ⟨-, htext⟩ | ⟨hfailed, htext⟩
  · rw [htext]
    rcases put_cases (w.put (toUtf8 f)).1 [lineFeed] with ⟨hw, hend⟩ | ⟨hw, hend⟩
    · exact .inl ⟨hw, by rw [hend]⟩
    · exact .inr ⟨hw, (List.prefix_append_right_inj _).mpr hend⟩
  · rw [put_of_failed hfailed]
    exact .inr ⟨hfailed, by rw [List.append_nil]; exact htext.trans (List.prefix_append _ _)⟩

/-- **Whatever its budget, a writer puts out the beginning of the lines.** -/
theorem lines_prefix (w : Writer) (fs : List String) : (w.lines fs).2 <+: linesOf fs := by
  induction fs generalizing w with
  | nil => exact List.nil_prefix
  | cons f fs ih =>
    rw [lines_cons, linesOf_cons]
    rcases line_cases w f with ⟨-, hline⟩ | ⟨hfailed, hline⟩
    · rw [hline]
      exact (List.prefix_append_right_inj _).mpr (ih _)
    · rw [lines_of_failed hfailed, List.append_nil]
      exact hline.trans (List.prefix_append _ _)

/-- A writer that never fails puts out all of them. -/
theorem lines_unlimited (fs : List String) :
    (fresh .unlimited).lines fs = (fresh .unlimited, linesOf fs) := by
  induction fs with
  | nil => rfl
  | cons f fs ih =>
    have hline : (fresh .unlimited).line f = (fresh .unlimited, toUtf8 f ++ [lineFeed]) := rfl
    rw [lines_cons, hline, ih]
    rfl

/-- What is left of a budget in bytes; a writer that failed has nothing left. -/
def Left (w : Writer) (n : Nat) : Prop := w.budget = .bytes n ∧ (w.working = false → n = 0)

theorem Left.put {w : Writer} {n : Nat} (h : w.Left n) (bytes : List UInt8) :
    (w.put bytes).2 = bytes.take n ∧ (w.put bytes).1.Left (n - bytes.length) := by
  obtain ⟨hbudget, hspent⟩ := h
  cases hw : w.working with
  | false =>
    rw [put_of_failed hw, hspent hw]
    exact ⟨rfl, by rw [Nat.zero_sub, ← hspent hw]; exact hbudget, fun _ => Nat.zero_sub _⟩
  | true =>
    unfold Writer.put
    rw [if_pos hw, hbudget]
    by_cases hfits : bytes.length ≤ n
    · simp [hfits, Left, List.take_of_length_le]
    · have hnone : n - bytes.length = 0 := by omega
      simp [hfits, Left, hnone]

theorem Left.line {w : Writer} {n : Nat} (h : w.Left n) (f : String) :
    (w.line f).2 = (toUtf8 f ++ [lineFeed]).take n ∧
      (w.line f).1.Left (n - (toUtf8 f ++ [lineFeed]).length) := by
  obtain ⟨htext, hleft⟩ := h.put (toUtf8 f)
  obtain ⟨hend, hleft'⟩ := hleft.put [lineFeed]
  refine ⟨?_, ?_⟩
  · show (w.put (toUtf8 f)).2 ++ ((w.put (toUtf8 f)).1.put [lineFeed]).2 = _
    rw [htext, hend, List.take_append]
  · rw [List.length_append, ← Nat.sub_sub]
    exact hleft'

theorem Left.lines {w : Writer} {n : Nat} (h : w.Left n) (fs : List String) :
    (w.lines fs).2 = (linesOf fs).take n := by
  induction fs generalizing w n with
  | nil => simp [linesOf]
  | cons f fs ih =>
    obtain ⟨hline, hleft⟩ := h.line f
    rw [lines_cons, linesOf_cons]
    show (w.line f).2 ++ ((w.line f).1.lines fs).2 = _
    rw [hline, ih hleft]
    exact List.take_append.symm

/-- **A writer that fails after some bytes puts out just these.** -/
theorem lines_bytes (n : Nat) (fs : List String) :
    ((fresh (.bytes n)).lines fs).2 = (linesOf fs).take n :=
  Left.lines ⟨rfl, fun h => by cases h⟩ fs

end Writer

end QuizClient
