/-
**How JSON is written.**

A text may say the same thing in many ways: with blanks between its tokens, with a character escaped
or not, with an exponent in either case.  Here is a grammar that tells how each content may be
written, without mentioning the reader.  What stands behind a part of a text never matters to the
grammar, and it matters to the reader only where it goes on with a number.

The reader and the grammar agree.  Whatever is written by the rules is read as its content, by
induction on the rules, and whatever the reader makes a content of is written by them, by induction
on its steps.

Main definitions:

* `Json.Part` — values, the items of an array, and the members of an object;
* `Json.Spells` — how parts are written, `Json.IsTextOf` — how whole texts are.

Main results:

* `Json.Spells.append` — nothing that stands behind a part matters;
* `Json.Spells.reads` — what is written by the rules is read;
* `Json.spells_readValue` — what is read is written by the rules;
* `Json.content?_eq_some_iff_isTextOf` — **a text has a content exactly if it is written by the
  rules as that content**;
* `Json.IsTextOf.append_inv` — nothing else than blanks may be put behind a text.
-/
import FirmwareCatalog.Proofs.Json.Token

set_option relaxedAutoImplicit false
set_option autoImplicit false

namespace FirmwareCatalog.Json

open Text (Stops)

/-! ### The grammar -/

/-- The parts of a text. -/
inductive Part where
  | value (c : Content)
  /-- The items of an array that is not empty, with the closing bracket. -/
  | items (cs : List Content)
  /-- The members of an object that is not empty, with the closing brace. -/
  | members (ms : List (Option String × Content))

/-- `Spells s p rest`: `s` begins with the part `p`, in some way of writing it, and `rest` stands
behind it.  There may be blanks in front of every token. -/
inductive Spells : List Char → Part → List Char → Prop
  | null {s rest : List Char} (h : skipBlank s = 'n' :: 'u' :: 'l' :: 'l' :: rest) :
      Spells s (.value .null) rest
  | boolTrue {s rest : List Char} (h : skipBlank s = 't' :: 'r' :: 'u' :: 'e' :: rest) :
      Spells s (.value (.bool true)) rest
  | boolFalse {s rest : List Char} (h : skipBlank s = 'f' :: 'a' :: 'l' :: 's' :: 'e' :: rest) :
      Spells s (.value (.bool false)) rest
  | positive {s t rest : List Char} {l : Numeral} (h : skipBlank s = t) (up : l.negative = false)
      (number : SpellsUnsigned t l rest) : Spells s (.value (.number l.bare)) rest
  | negative {s t rest : List Char} {l : Numeral} (h : skipBlank s = '-' :: t)
      (down : l.negative = true) (number : SpellsUnsigned t l rest) :
      Spells s (.value (.number l.bare)) rest
  | string {s t rest : List Char} {o : Option (List Char)} (h : skipBlank s = '"' :: t)
      (text : SpellsText t o rest) : Spells s (.value (.string (o.map String.ofList))) rest
  | emptyArray {s t rest : List Char} (h : skipBlank s = '[' :: t) (close : skipBlank t = ']' :: rest) :
      Spells s (.value (.array [])) rest
  | array {s t rest : List Char} {cs : List Content} (h : skipBlank s = '[' :: t)
      (items : Spells t (.items cs) rest) : Spells s (.value (.array cs)) rest
  | emptyObject {s t rest : List Char} (h : skipBlank s = '\x7b' :: t)
      (close : skipBlank t = '\x7d' :: rest) : Spells s (.value (.object [])) rest
  | object {s t rest : List Char} {ms : List (Option String × Content)}
      (h : skipBlank s = '\x7b' :: t) (members : Spells t (.members ms) rest) :
      Spells s (.value (.object ms)) rest
  | lastItem {s t rest : List Char} {c : Content} (head : Spells s (.value c) t)
      (close : skipBlank t = ']' :: rest) : Spells s (.items [c]) rest
  | item {s t u rest : List Char} {c : Content} {cs : List Content} (head : Spells s (.value c) t)
      (comma : skipBlank t = ',' :: u) (tail : Spells u (.items cs) rest) :
      Spells s (.items (c :: cs)) rest
  | lastMember {s t u v w rest : List Char} {o : Option (List Char)} {c : Content}
      (h : skipBlank s = '"' :: t) (key : SpellsText t o u) (colon : skipBlank u = ':' :: v)
      (value : Spells v (.value c) w) (close : skipBlank w = '\x7d' :: rest) :
      Spells s (.members [(o.map String.ofList, c)]) rest
  | member {s t u v w x rest : List Char} {o : Option (List Char)} {c : Content}
      {ms : List (Option String × Content)} (h : skipBlank s = '"' :: t) (key : SpellsText t o u)
      (colon : skipBlank u = ':' :: v) (value : Spells v (.value c) w)
      (comma : skipBlank w = ',' :: x) (tail : Spells x (.members ms) rest) :
      Spells s (.members ((o.map String.ofList, c) :: ms)) rest

/-- The whole text is written by the rules as the content, with blanks around it. -/
def IsTextOf (s : String) (c : Content) : Prop :=
  ∃ rest, Spells s.toList (.value c) rest ∧ skipBlank rest = []

section Blanks

variable {s t rest : List Char} {c : Char}

theorem skipBlank_append (h : skipBlank s = c :: t) (u : List Char) :
    skipBlank (s ++ u) = c :: (t ++ u) := by
  rw [skipBlank] at h ⊢
  rw [List.dropWhile_append, h]
  rfl

theorem not_mem_of_skipBlank (h : skipBlank s = c :: t) : c ∉ [' ', '\n', '\t', '\r'] := by
  have hhead := List.head?_dropWhile_not (fun c => c == ' ' || c == '\n' || c == '\t' || c == '\r') s
  rw [show s.dropWhile _ = c :: t from h] at hhead
  simpa [and_assoc] using hhead

theorem skipBlank_skipBlank (s : List Char) : skipBlank (skipBlank s) = skipBlank s := by
  cases h : skipBlank s with
  | nil => rfl
  | cons c t => exact skipBlank_cons (not_mem_of_skipBlank h) t

theorem length_skipBlank_le (s : List Char) : (skipBlank s).length ≤ s.length :=
  (List.dropWhile_suffix _).length_le

/-- Nothing that is behind blanks goes on with a number, if it does not itself. -/
theorem stops_of_skipBlank (h : ∀ c ∈ (skipBlank s).head?, goesOn c = false) : Stops goesOn s := by
  cases s with
  | nil => exact Text.stops_nil _
  | cons d s =>
      rw [Text.stops_cons]
      by_cases hd : d ∈ [' ', '\n', '\t', '\r']
      · have hblank : ∀ d ∈ [' ', '\n', '\t', '\r'], goesOn d = false := by
          simp only [List.forall_mem_cons, List.not_mem_nil, false_implies, implies_true, and_true]
          decide
        exact hblank d hd
      · rw [skipBlank_cons hd] at h
        exact h d rfl

theorem stops_of_skipBlank_cons (h : skipBlank s = c :: t) (hc : goesOn c = false) :
    Stops goesOn s :=
  stops_of_skipBlank fun d hd => by
    rw [h] at hd
    cases hd
    exact hc

theorem stops_of_skipBlank_nil (h : skipBlank s = []) : Stops goesOn s :=
  stops_of_skipBlank fun d hd => by
    rw [h] at hd
    cases hd

end Blanks

namespace Spells

variable {s rest : List Char} {p : Part}

/-- **What stands behind a part does not matter to it.** -/
theorem append (h : Spells s p rest) (t : List Char) : Spells (s ++ t) p (rest ++ t) := by
  induction h with
  | null h => exact .null (skipBlank_append h t)
  | boolTrue h => exact .boolTrue (skipBlank_append h t)
  | boolFalse h => exact .boolFalse (skipBlank_append h t)
  | positive h up number =>
      obtain ⟨d, u, rfl, -⟩ := number.exists_digit
      exact .positive (skipBlank_append h t) up (number.append t)
  | negative h down number => exact .negative (skipBlank_append h t) down (number.append t)
  | string h text => exact .string (skipBlank_append h t) (text.append t)
  | emptyArray h close => exact .emptyArray (skipBlank_append h t) (skipBlank_append close t)
  | array h _ ih => exact .array (skipBlank_append h t) ih
  | emptyObject h close => exact .emptyObject (skipBlank_append h t) (skipBlank_append close t)
  | object h _ ih => exact .object (skipBlank_append h t) ih
  | lastItem _ close ih => exact .lastItem ih (skipBlank_append close t)
  | item _ comma _ ihhead ihtail => exact .item ihhead (skipBlank_append comma t) ihtail
  | lastMember h key colon _ close ih =>
      exact .lastMember (skipBlank_append h t) (key.append t) (skipBlank_append colon t) ih
        (skipBlank_append close t)
  | member h key colon _ comma _ ihvalue ihtail =>
      exact .member (skipBlank_append h t) (key.append t) (skipBlank_append colon t) ihvalue
        (skipBlank_append comma t) ihtail

theorem length_lt_of_skipBlank {c : Char} {t : List Char} (h : skipBlank s = c :: t) :
    t.length < s.length := by
  have hle := length_skipBlank_le s
  rw [h, List.length_cons] at hle
  exact hle

/-- A part takes at least one character. -/
theorem length_lt (h : Spells s p rest) : rest.length < s.length := by
  have hword {s t rest : List Char} {c : Char} (h : skipBlank s = c :: t)
      (hle : rest.length ≤ t.length) : rest.length < s.length :=
    Nat.lt_of_le_of_lt hle (length_lt_of_skipBlank h)
  induction h with
  | null h => exact hword h (by simp only [List.length_cons]; omega)
  | boolTrue h => exact hword h (by simp only [List.length_cons]; omega)
  | boolFalse h => exact hword h (by simp only [List.length_cons]; omega)
  | positive h up number =>
      obtain ⟨d, u, rfl, -, hle⟩ := number.exists_digit
      exact hword h hle
  | negative h down number =>
      obtain ⟨d, u, rfl, -, hle⟩ := number.exists_digit
      exact hword h (by simp only [List.length_cons]; omega)
  | string h text => exact hword h (Nat.le_of_lt text.length_lt)
  | emptyArray h close => exact hword h (Nat.le_of_lt (length_lt_of_skipBlank close))
  | array h _ ih => exact hword h (Nat.le_of_lt ih)
  | emptyObject h close => exact hword h (Nat.le_of_lt (length_lt_of_skipBlank close))
  | object h _ ih => exact hword h (Nat.le_of_lt ih)
  | lastItem _ close ih => exact Nat.lt_trans (length_lt_of_skipBlank close) ih
  | item _ comma _ ihhead ihtail =>
      exact Nat.lt_trans ihtail (Nat.lt_trans (length_lt_of_skipBlank comma) ihhead)
  | lastMember h key colon _ close ih =>
      have hkey := key.length_lt
      have hquote := length_lt_of_skipBlank h
      have hcolon := length_lt_of_skipBlank colon
      have hclose := length_lt_of_skipBlank close
      omega
  | member h key colon _ comma _ ihvalue ihtail =>
      have hkey := key.length_lt
      have hquote := length_lt_of_skipBlank h
      have hcolon := length_lt_of_skipBlank colon
      have hcomma := length_lt_of_skipBlank comma
      omega

/-- A value or an item does not begin with the end of an array. -/
theorem head_ne (h : Spells s p rest) (hp : ∀ ms, p ≠ .members ms) :
    ∃ c t, skipBlank s = c :: t ∧ c ≠ ']' := by
  induction h with
  | null h => exact ⟨_, _, h, by decide⟩
  | boolTrue h => exact ⟨_, _, h, by decide⟩
  | boolFalse h => exact ⟨_, _, h, by decide⟩
  | positive h up number =>
      obtain ⟨d, u, rfl, hd, -⟩ := number.exists_digit
      refine ⟨d, u, h, ?_⟩
      rintro rfl
      exact absurd hd (by decide)
  | negative h down number => exact ⟨_, _, h, by decide⟩
  | string h text => exact ⟨_, _, h, by decide⟩
  | emptyArray h close => exact ⟨_, _, h, by decide⟩
  | array h _ _ => exact ⟨_, _, h, by decide⟩
  | emptyObject h close => exact ⟨_, _, h, by decide⟩
  | object h _ _ => exact ⟨_, _, h, by decide⟩
  | lastItem _ _ ih => exact ih nofun
  | item _ _ _ ih _ => exact ih nofun
  | lastMember _ _ _ _ _ _ => exact absurd rfl (hp _)
  | member _ _ _ _ _ _ _ _ => exact absurd rfl (hp _)

theorem members_head {ms : List (Option String × Content)} (h : Spells s (.members ms) rest) :
    ∃ t, skipBlank s = '"' :: t := by
  cases h with
  | lastMember h key colon value close => exact ⟨_, h⟩
  | member h key colon value comma tail => exact ⟨_, h⟩

end Spells

/-! ### What is written by the rules is read -/

/-- A part is read in two steps for each character of the text that begins with it. -/
def Part.IsRead (s rest : List Char) : Part → Prop
  | .value c => ∀ n, 2 * s.length ≤ n → ((∀ l, c ≠ .number l) ∨ Stops goesOn rest) →
    (readValue n s).content? = some c ∧ (readValue n s).after? = some rest
  | .items cs => ∀ n, 2 * s.length + 1 ≤ n →
    (readItems n (skipBlank s)).content? = some cs ∧
      (readItems n (skipBlank s)).after? = some rest
  | .members ms => ∀ n t, 2 * s.length + 1 ≤ n → skipBlank s = '"' :: t →
    (readMembers n t).content? = some ms ∧ (readMembers n t).after? = some rest

theorem readValue_skipBlank (n : Nat) (s : List Char) : readValue n (skipBlank s) = readValue n s := by
  cases n with
  | zero => rfl
  | succ n => rw [readValue, readValue, skipBlank_skipBlank]

section Reads

variable {s t u v w x rest : List Char} {c : Content} {cs : List Content}
variable {o : Option (List Char)} {ms : List (Option String × Content)}

theorem isRead_value (hs : Spells s (.value c) rest)
    (h : ∀ n, 2 * s.length ≤ n + 1 → ((∀ l, c ≠ .number l) ∨ Stops goesOn rest) →
      (readValue (n + 1) s).content? = some c ∧ (readValue (n + 1) s).after? = some rest) :
    (Part.value c).IsRead s rest := by
  have hlt := hs.length_lt
  intro n hn hrest
  obtain ⟨n, rfl⟩ := Nat.exists_eq_add_of_le' (show 1 ≤ n by omega)
  exact h n hn hrest

theorem readValue_digit (n : Nat) {d : Char} (h : isDigit d = true) (s : List Char) :
    readValue (n + 1) (d :: s) = readNumber false (d :: s) := by
  have hne := ne_of_isDigit h
  simp only [List.mem_cons, List.not_mem_nil, or_false, not_or] at hne
  rw [readValue, skipBlank_cons (by simp [hne])]
  simp only [hne, if_false, h, if_true]

theorem IsLiteralOf.isRead {l : Numeral} {rest : List Char} {node : Node}
    (h : IsLiteralOf l rest node) :
    node.content? = some (.number l.bare) ∧ node.after? = some rest := by
  obtain ⟨l', rfl, hbare, rfl⟩ := h
  exact ⟨congrArg (some ∘ Content.number) hbare, rfl⟩

theorem isRead_string (h : skipBlank s = '"' :: t) (text : SpellsText t o rest) :
    (Part.value (.string (o.map String.ofList))).IsRead s rest := by
  refine isRead_value (.string h text) fun n _ _ => ?_
  obtain ⟨htext, hafter⟩ := readString_eq_iff.2 ⟨o, text, rfl⟩
  rw [← readValue_skipBlank, h]
  change (Node.string (readString t)).content? = _ ∧ (Node.string (readString t)).after? = _
  rw [Node.content?, Node.after?, htext, hafter]
  exact ⟨rfl, rfl⟩

/-- An array is read if its items are: the first of them does not begin with the bracket that would
close the array. -/
theorem isRead_array (h : skipBlank s = '[' :: t) (items : Spells t (.items cs) rest)
    (ih : (Part.items cs).IsRead t rest) : (Part.value (.array cs)).IsRead s rest := by
  refine isRead_value (.array h items) fun n hn _ => ?_
  have hbracket := Spells.length_lt_of_skipBlank h
  obtain ⟨hcontent, hafter⟩ := ih n (by omega)
  obtain ⟨d, u, hd, hne⟩ := items.head_ne nofun
  rw [← readValue_skipBlank, h, readValue_bracket, hd]
  rw [hd] at hcontent hafter
  simp only [if_neg hne, Node.content?, Node.after?, hcontent, hafter, Option.map_some, and_self]

theorem isRead_object (h : skipBlank s = '\x7b' :: t) (members : Spells t (.members ms) rest)
    (ih : (Part.members ms).IsRead t rest) : (Part.value (.object ms)).IsRead s rest := by
  refine isRead_value (.object h members) fun n hn _ => ?_
  have hbrace := Spells.length_lt_of_skipBlank h
  obtain ⟨u, hu⟩ := members.members_head
  obtain ⟨hcontent, hafter⟩ := ih n u (by omega) hu
  rw [← readValue_skipBlank, h, readValue_brace, hu]
  simp only [Char.reduceEq, if_false, if_true, Node.content?, Node.after?, hcontent, hafter,
    Option.map_some, and_self]

theorem isRead_lastItem (close : skipBlank t = ']' :: rest) (ih : (Part.value c).IsRead s t) :
    (Part.items [c]).IsRead s rest := by
  intro n hn
  obtain ⟨n, rfl⟩ := Nat.exists_eq_add_of_le' (show 1 ≤ n by omega)
  obtain ⟨hcontent, hafter⟩ := ih n (by omega) (Or.inr (stops_of_skipBlank_cons close (by decide)))
  rw [readItems]
  simp only [readValue_skipBlank, Items.content?, Items.after?, hcontent, hafter, close, if_true,
    and_self]

theorem isRead_item (head : Spells s (.value c) t) (comma : skipBlank t = ',' :: u)
    (tail : Spells u (.items cs) rest) (ihhead : (Part.value c).IsRead s t)
    (ihtail : (Part.items cs).IsRead u rest) : (Part.items (c :: cs)).IsRead s rest := by
  intro n hn
  obtain ⟨n, rfl⟩ := Nat.exists_eq_add_of_le' (show 1 ≤ n by omega)
  have hhead := head.length_lt
  have hcomma := Spells.length_lt_of_skipBlank comma
  obtain ⟨hcontent, hafter⟩ := ihhead n (by omega)
    (Or.inr (stops_of_skipBlank_cons comma (by decide)))
  obtain ⟨hcontents, hend⟩ := ihtail n (by omega)
  -- the next item does not begin with the closing bracket, so the comma is not the last one
  obtain ⟨d, v, hd, hne⟩ := tail.head_ne nofun
  rw [hd] at hcontents hend
  rw [readItems]
  simp only [readValue_skipBlank, Items.content?, Items.after?, hcontent, hafter, comma,
    Char.reduceEq, if_false, if_true, hd, if_neg hne, hcontents, hend, and_self]

theorem isRead_lastMember (h : skipBlank s = '"' :: t) (key : SpellsText t o u)
    (colon : skipBlank u = ':' :: v) (close : skipBlank w = '\x7d' :: rest)
    (ih : (Part.value c).IsRead v w) :
    (Part.members [(o.map String.ofList, c)]).IsRead s rest := by
  intro n t' hn ht'
  obtain rfl : t = t' := (List.cons.inj (h.symm.trans ht')).2
  obtain ⟨n, rfl⟩ := Nat.exists_eq_add_of_le' (show 1 ≤ n by omega)
  have hkey := key.length_lt
  have hquote := Spells.length_lt_of_skipBlank h
  have hcolon := Spells.length_lt_of_skipBlank colon
  obtain ⟨hcontent, hafter⟩ := ih n (by omega) (Or.inr (stops_of_skipBlank_cons close (by decide)))
  obtain ⟨htext, hend⟩ := readString_eq_iff.2 ⟨o, key, rfl⟩
  rw [readMembers]
  simp only [hend, colon, if_true, Members.content?, Members.after?, hcontent, hafter, close,
    htext, and_self]

theorem isRead_member (h : skipBlank s = '"' :: t) (key : SpellsText t o u)
    (colon : skipBlank u = ':' :: v) (value : Spells v (.value c) w)
    (comma : skipBlank w = ',' :: x) (tail : Spells x (.members ms) rest)
    (ihvalue : (Part.value c).IsRead v w) (ihtail : (Part.members ms).IsRead x rest) :
    (Part.members ((o.map String.ofList, c) :: ms)).IsRead s rest := by
  intro n t' hn ht'
  obtain rfl : t = t' := (List.cons.inj (h.symm.trans ht')).2
  obtain ⟨n, rfl⟩ := Nat.exists_eq_add_of_le' (show 1 ≤ n by omega)
  have hkey := key.length_lt
  have hvalue := value.length_lt
  have hquote := Spells.length_lt_of_skipBlank h
  have hcolon := Spells.length_lt_of_skipBlank colon
  have hcomma := Spells.length_lt_of_skipBlank comma
  obtain ⟨hcontent, hafter⟩ := ihvalue n (by omega)
    (Or.inr (stops_of_skipBlank_cons comma (by decide)))
  obtain ⟨y, hy⟩ := tail.members_head
  obtain ⟨hcontents, hend'⟩ := ihtail n y (by omega) hy
  obtain ⟨htext, hend⟩ := readString_eq_iff.2 ⟨o, key, rfl⟩
  rw [readMembers]
  simp only [hend, colon, if_true, Members.content?, Members.after?, hcontent, hafter, comma,
    Char.reduceEq, if_false, hy, hcontents, hend', htext, and_self]

/-- **What is written by the rules is read**, by induction on the rules. -/
theorem Spells.reads {p : Part} (h : Spells s p rest) : p.IsRead s rest := by
  induction h with
  | null h =>
      refine isRead_value (.null h) fun n _ _ => ?_
      rw [← readValue_skipBlank, h]
      exact ⟨rfl, rfl⟩
  | boolTrue h =>
      refine isRead_value (.boolTrue h) fun n _ _ => ?_
      rw [← readValue_skipBlank, h]
      exact ⟨rfl, rfl⟩
  | boolFalse h =>
      refine isRead_value (.boolFalse h) fun n _ _ => ?_
      rw [← readValue_skipBlank, h]
      exact ⟨rfl, rfl⟩
  | @positive s t rest l h up number =>
      refine isRead_value (.positive h up number) fun n _ hrest => ?_
      have hread := number.reads (hrest.resolve_left fun hne => hne l.bare rfl)
      obtain ⟨d, u, rfl, hd, -⟩ := number.exists_digit
      rw [up] at hread
      rw [← readValue_skipBlank, h, readValue_digit n hd]
      exact hread.isRead
  | @negative s t rest l h down number =>
      refine isRead_value (.negative h down number) fun n _ hrest => ?_
      have hread := number.reads (hrest.resolve_left fun hne => hne l.bare rfl)
      rw [down] at hread
      rw [← readValue_skipBlank, h]
      exact hread.isRead
  | string h text => exact isRead_string h text
  | emptyArray h close =>
      refine isRead_value (.emptyArray h close) fun n _ _ => ?_
      rw [← readValue_skipBlank, h, readValue_bracket, close]
      exact ⟨rfl, rfl⟩
  | array h items ih => exact isRead_array h items ih
  | emptyObject h close =>
      refine isRead_value (.emptyObject h close) fun n _ _ => ?_
      rw [← readValue_skipBlank, h, readValue_brace, close]
      exact ⟨rfl, rfl⟩
  | object h members ih => exact isRead_object h members ih
  | lastItem _ close ih => exact isRead_lastItem close ih
  | item head comma tail ihhead ihtail => exact isRead_item head comma tail ihhead ihtail
  | lastMember h key colon _ close ih => exact isRead_lastMember h key colon close ih
  | member h key colon value comma tail ihvalue ihtail =>
      exact isRead_member h key colon value comma tail ihvalue ihtail

end Reads

/-! ### What is read is written by the rules -/

/-- What is in front of a part are blanks, and they do not matter. -/
theorem Spells.congr_skipBlank {s s' rest : List Char} {p : Part} (h : Spells s p rest)
    (hs : skipBlank s' = skipBlank s) : Spells s' p rest := by
  induction h with
  | null h => exact .null (hs.trans h)
  | boolTrue h => exact .boolTrue (hs.trans h)
  | boolFalse h => exact .boolFalse (hs.trans h)
  | positive h up number => exact .positive (hs.trans h) up number
  | negative h down number => exact .negative (hs.trans h) down number
  | string h text => exact .string (hs.trans h) text
  | emptyArray h close => exact .emptyArray (hs.trans h) close
  | array h items _ => exact .array (hs.trans h) items
  | emptyObject h close => exact .emptyObject (hs.trans h) close
  | object h members _ => exact .object (hs.trans h) members
  | lastItem _ close ih => exact .lastItem (ih hs) close
  | item _ comma tail ih _ => exact .item (ih hs) comma tail
  | lastMember h key colon value close _ => exact .lastMember (hs.trans h) key colon value close
  | member h key colon value comma tail _ _ =>
      exact .member (hs.trans h) key colon value comma tail

/-- A word is read to its end, and then its content is known. -/
theorem ends_readWord {node : List Char → Node} {c c' : Content} {rest word s : List Char}
    (hnode : ∀ t, (node t).Ends c' t) (h : (readWord node word s).Ends c rest) :
    c = c' ∧ s = word ++ rest := by
  induction word generalizing s with
  | nil =>
      have hcontent := h.1.symm.trans (hnode s).1
      have hafter := h.2.symm.trans (hnode s).2
      exact ⟨Option.some.inj hcontent, (Option.some.inj hafter).symm⟩
  | cons w word ih =>
      cases s with
      | nil => cases h.1
      | cons d s =>
          rw [readWord] at h
          split at h
          · rename_i hd
            obtain ⟨rfl, rfl⟩ := ih h
            exact ⟨rfl, by rw [hd]; rfl⟩
          · cases h.1

theorem Items.Ends.cons {start rest : List Char} {head : Node} {tail : Items} {cs : List Content}
    (h : (Items.cons start head tail).Ends cs rest) :
    ∃ c cs', cs = c :: cs' ∧ head.content? = some c ∧ tail.Ends cs' rest := by
  obtain ⟨hcontent, hafter⟩ := h
  rw [Items.content?] at hcontent
  split at hcontent
  · rename_i c cs' hc hcs'
    cases hcontent
    exact ⟨c, cs', rfl, hc, hcs', hafter⟩
  · cases hcontent

theorem Members.Ends.cons {rest : List Char} {key : StringToken} {value : Node} {tail : Members}
    {ms : List (Option String × Content)} (h : (Members.cons key value tail).Ends ms rest) :
    ∃ c ms', ms = (key.text?, c) :: ms' ∧ value.content? = some c ∧ tail.Ends ms' rest := by
  obtain ⟨hcontent, hafter⟩ := h
  rw [Members.content?] at hcontent
  split at hcontent
  · rename_i c ms' hc hms'
    cases hcontent
    exact ⟨c, ms', rfl, hc, hms', hafter⟩
  · cases hcontent

/-- A string is read to its closing quote. -/
theorem Node.Ends.string {s rest : List Char} {c : Content}
    (h : (Node.string (readString s)).Ends c rest) :
    ∃ o, SpellsText s o rest ∧ c = .string (o.map String.ofList) := by
  obtain ⟨hcontent, hafter⟩ := h
  rw [Node.after?] at hafter
  have hend : (readString s).after = .ok rest := by
    cases hread : (readString s).after with
    | error fault => rw [hread] at hafter; cases hafter
    | ok r => rw [hread] at hafter; cases hafter; rfl
  obtain ⟨o, ho, htext⟩ := readString_eq_iff.1 ⟨rfl, hend⟩
  rw [Node.content?, hend, htext] at hcontent
  cases hcontent
  exact ⟨o, ho, rfl⟩

theorem Node.Ends.array {start rest : List Char} {items : Items} {c : Content}
    (h : (Node.array start items).Ends c rest) : ∃ cs, c = .array cs ∧ items.Ends cs rest := by
  obtain ⟨cs, hcs, rfl⟩ := Option.map_eq_some_iff.1 h.1
  exact ⟨cs, rfl, hcs, h.2⟩

theorem Node.Ends.object {start rest : List Char} {members : Members} {c : Content}
    (h : (Node.object start members).Ends c rest) : ∃ ms, c = .object ms ∧ members.Ends ms rest := by
  obtain ⟨ms, hms, rfl⟩ := Option.map_eq_some_iff.1 h.1
  exact ⟨ms, rfl, hms, h.2⟩

theorem skipBlank_eq_of_skipBlank {s t : List Char} {c : Char} (h : skipBlank s = c :: t) :
    skipBlank s = skipBlank (c :: t) := by
  rw [← h, skipBlank_skipBlank]

/-- What is read from a bracket on is an array, if what is read as items are items. -/
theorem spells_readArray {n : Nat} {s t rest : List Char} {c : Content} (hs : skipBlank s = '[' :: t)
    (hitems : ∀ {u cs}, (readItems n u).Ends cs rest → Spells u (.items cs) rest)
    (h : (readValue (n + 1) ('[' :: t)).Ends c rest) : Spells s (.value c) rest := by
  rw [readValue_bracket] at h
  obtain ⟨cs, rfl, hend⟩ := h.array
  split at hend
  · cases hend.1
  rename_i d u hd
  split at hend
  · rename_i hclose
    subst hclose
    cases hend.1
    cases hend.2
    exact .emptyArray hs hd
  · exact .array hs ((hitems hend).congr_skipBlank (skipBlank_eq_of_skipBlank hd))

/-- What is read from a brace on is an object, if what is read as members are members. -/
theorem spells_readObject {n : Nat} {s t rest : List Char} {c : Content}
    (hs : skipBlank s = '\x7b' :: t)
    (hmembers : ∀ {u v ms}, (readMembers n v).Ends ms rest → skipBlank u = '"' :: v →
      Spells u (.members ms) rest)
    (h : (readValue (n + 1) ('\x7b' :: t)).Ends c rest) : Spells s (.value c) rest := by
  rw [readValue_brace] at h
  obtain ⟨ms, rfl, hend⟩ := h.object
  split at hend
  · cases hend.1
  rename_i d u hd
  split at hend
  · rename_i hclose
    subst hclose
    cases hend.1
    cases hend.2
    exact .emptyObject hs hd
  split at hend
  · rename_i hkey
    subst hkey
    exact .object hs (hmembers hend hd)
  · cases hend.1

mutual

/-- What is read as a value is written by the rules. -/
theorem spells_readValue : ∀ (n : Nat) {s rest : List Char} {c : Content},
    (readValue n s).Ends c rest → Spells s (.value c) rest
  | 0, s, rest, c, h => nomatch h.1
  | n + 1, s, rest, c, h => by
      have hread := h
      rw [← readValue_skipBlank] at hread
      rw [readValue] at h
      split at h
      · cases h.1
      rename_i d t hs
      rw [hs] at hread
      -- the cases are the first characters that a value may have, in the reader's order
      by_cases hnull : d = 'n'
      · subst hnull
        rw [if_pos rfl] at h
        obtain ⟨rfl, rfl⟩ := ends_readWord (fun _ => ⟨rfl, rfl⟩) h
        exact .null hs
      rw [if_neg hnull] at h
      by_cases htrue : d = 't'
      · subst htrue
        rw [if_pos rfl] at h
        obtain ⟨rfl, rfl⟩ := ends_readWord (fun _ => ⟨rfl, rfl⟩) h
        exact .boolTrue hs
      rw [if_neg htrue] at h
      by_cases hfalse : d = 'f'
      · subst hfalse
        rw [if_pos rfl] at h
        obtain ⟨rfl, rfl⟩ := ends_readWord (fun _ => ⟨rfl, rfl⟩) h
        exact .boolFalse hs
      rw [if_neg hfalse] at h
      by_cases hquote : d = '"'
      · subst hquote
        rw [if_pos rfl] at h
        obtain ⟨o, ho, rfl⟩ := h.string
        exact .string hs ho
      rw [if_neg hquote] at h
      by_cases hsign : d = '-'
      · subst hsign
        rw [if_pos rfl] at h
        obtain ⟨l, rfl, hnegative, hl⟩ := isSpelled_readNumber h
        exact .negative hs hnegative hl
      rw [if_neg hsign] at h
      by_cases hdigit : isDigit d = true
      · rw [if_pos hdigit] at h
        obtain ⟨l, rfl, hnegative, hl⟩ := isSpelled_readNumber h
        exact .positive hs hnegative hl
      rw [if_neg hdigit] at h
      by_cases hbracket : d = '['
      · subst hbracket
        exact spells_readArray hs (spells_readItems n) hread
      rw [if_neg hbracket] at h
      by_cases hbrace : d = '\x7b'
      · subst hbrace
        exact spells_readObject hs (spells_readMembers n) hread
      rw [if_neg hbrace] at h
      cases h.1

/-- What is read as the items of an array is written by the rules. -/
theorem spells_readItems : ∀ (n : Nat) {s rest : List Char} {cs : List Content},
    (readItems n s).Ends cs rest → Spells s (.items cs) rest
  | 0, s, rest, cs, h => nomatch h.1
  | n + 1, s, rest, cs, h => by
      rw [readItems] at h
      obtain ⟨c, cs, rfl, hc, htail⟩ := h.cons
      -- behind an item stands the closing bracket or a comma with the next item; any other text
      -- stops the reader, and then there is no content
      split at htail
      · cases htail.1
      rename_i t ht
      have hhead := spells_readValue n ⟨hc, ht⟩
      split at htail
      · cases htail.1
      rename_i d u hd
      split at htail
      · rename_i hclose
        subst hclose
        cases htail.1
        cases htail.2
        exact .lastItem hhead hd
      split at htail
      · rename_i hcomma
        subst hcomma
        split at htail
        · cases htail.1
        rename_i e v he
        split at htail
        · cases htail.1
        · exact .item hhead hd
            ((spells_readItems n htail).congr_skipBlank (skipBlank_eq_of_skipBlank he))
      · cases htail.1

/-- What is read as the members of an object is written by the rules. -/
theorem spells_readMembers : ∀ (n : Nat) {s t rest : List Char}
    {ms : List (Option String × Content)}, (readMembers n t).Ends ms rest →
      skipBlank s = '"' :: t → Spells s (.members ms) rest
  | 0, s, t, rest, ms, h, hs => nomatch h.1
  | n + 1, s, t, rest, ms, h, hs => by
      rw [readMembers] at h
      dsimp only at h
      split at h
      · cases h.1
      rename_i u hu
      obtain ⟨o, ho, htext⟩ := readString_eq_iff.1 ⟨rfl, hu⟩
      split at h
      · cases h.1
      rename_i d v hd
      split at h
      · rename_i hcolon
        subst hcolon
        obtain ⟨c, ms, rfl, hc, htail⟩ := h.cons
        rw [htext]
        split at htail
        · cases htail.1
        rename_i w hw
        have hvalue := spells_readValue n ⟨hc, hw⟩
        split at htail
        · cases htail.1
        rename_i e x he
        split at htail
        · rename_i hclose
          subst hclose
          cases htail.1
          cases htail.2
          exact .lastMember hs ho hd hvalue he
        split at htail
        · rename_i hcomma
          subst hcomma
          split at htail
          · cases htail.1
          rename_i f y hf
          split at htail
          · rename_i hquote
            subst hquote
            exact .member hs ho hd hvalue he (spells_readMembers n htail hf)
          split at htail
          · cases htail.1
          · cases htail.1
        · cases htail.1
      · cases h.1

end

/-! ### Whole texts -/

/-- **A text has a content exactly if it is written by the rules as that content.** -/
theorem content?_eq_some_iff_isTextOf {s : String} {c : Content} :
    content? s = some c ↔ IsTextOf s c := by
  rw [content?_eq_some_iff]
  constructor
  · rintro ⟨hcontent, rest, hafter, hblank⟩
    exact ⟨rest, spells_readValue _ ⟨hcontent, hafter⟩, hblank⟩
  · rintro ⟨rest, hspells, hblank⟩
    have hstops : Stops goesOn rest := stops_of_skipBlank_nil hblank
    obtain ⟨hcontent, hafter⟩ := hspells.reads (2 * s.toList.length + 2) (by omega) (Or.inr hstops)
    exact ⟨hcontent, rest, hafter, hblank⟩

/-! ### Where a value ends -/

/-- A content that is no number.  The end of a number is told by what stands behind it. -/
def Content.IsClosed (c : Content) : Prop := ∀ l, c ≠ .number l

/-- **A value that is no number ends where it ends**, and says what it says, whatever stands behind
it. -/
theorem Spells.unique {s rest rest' : List Char} {c c' : Content} (h : Spells s (.value c) rest)
    (h' : Spells s (.value c') rest') (hc : c.IsClosed) (hc' : c'.IsClosed) :
    c = c' ∧ rest = rest' := by
  obtain ⟨hcontent, hafter⟩ := h.reads (2 * s.length) (Nat.le_refl _) (Or.inl hc)
  obtain ⟨hcontent', hafter'⟩ := h'.reads (2 * s.length) (Nat.le_refl _) (Or.inl hc')
  exact ⟨Option.some.inj (hcontent.symm.trans hcontent'),
    Option.some.inj (hafter.symm.trans hafter')⟩

/-- Only blanks are left out where nothing is left. -/
theorem skipBlank_eq_nil_iff {s : List Char} :
    skipBlank s = [] ↔ ∀ c ∈ s, c ∈ [' ', '\n', '\t', '\r'] := by
  induction s with
  | nil => exact iff_of_true rfl (List.forall_mem_nil _)
  | cons d s ih =>
      rw [List.forall_mem_cons, ← ih]
      by_cases hd : d ∈ [' ', '\n', '\t', '\r']
      · rw [and_iff_right hd, skipBlank, List.dropWhile_cons_of_pos (by simpa [or_assoc] using hd)]
        rfl
      · rw [skipBlank_cons hd]
        exact iff_of_false (List.cons_ne_nil d s) fun h => hd h.1

theorem IsTextOf.append_blanks {s w : String} {c : Content} (h : IsTextOf s c)
    (hw : ∀ d ∈ w.toList, d ∈ [' ', '\n', '\t', '\r']) : IsTextOf (s ++ w) c := by
  obtain ⟨rest, hspells, hrest⟩ := h
  refine ⟨rest ++ w.toList, ?_, ?_⟩
  · rw [String.toList_append]
    exact hspells.append w.toList
  · rw [skipBlank_eq_nil_iff] at hrest ⊢
    exact List.forall_mem_append.2 ⟨hrest, hw⟩

/-- **Nothing else than blanks may be put behind a text**, unless it says a number, and what it says
stays the same. -/
theorem IsTextOf.append_inv {s w : String} {c c' : Content} (h : IsTextOf s c)
    (h' : IsTextOf (s ++ w) c') (hc : c.IsClosed) (hc' : c'.IsClosed) :
    c = c' ∧ ∀ d ∈ w.toList, d ∈ [' ', '\n', '\t', '\r'] := by
  obtain ⟨rest, hspells, -⟩ := h
  obtain ⟨rest', hspells', hrest'⟩ := h'
  rw [String.toList_append] at hspells'
  obtain ⟨rfl, rfl⟩ := (hspells.append w.toList).unique hspells' hc hc'
  exact ⟨rfl, (List.forall_mem_append.1 (skipBlank_eq_nil_iff.1 hrest')).2⟩

end FirmwareCatalog.Json
