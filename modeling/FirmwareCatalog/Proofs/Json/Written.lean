/-
**Written values are read back.**

A value is written without a blank, and the reader turns its text into a tree in which every part
knows the text that follows it.  The tree of a written value can therefore be given outright, by
recursion over the value, for whatever stands behind it; the only thing that may not stand behind a
value is a character that would go on with a number.

Main definitions:

* `Json.tree` — the tree of a written value with a text behind it;
* `Json.goesOn` — the characters that go on with a number.

Main results:

* `Json.readNumber_toDigits` — a written number is read back;
* `Json.readValue_written` — **a written value is read as its tree**, with enough steps;
* `Json.after?_tree` — the tree of a value ends where the value does;
* `Json.read_render` — a whole text.
-/
import FirmwareCatalog.Proofs.Json.Strings
import FirmwareCatalog.Proofs.Text.Digits

set_option relaxedAutoImplicit false
set_option autoImplicit false

namespace FirmwareCatalog.Json

open Text (Stops)

/-! ### Numbers -/

/-- The characters that go on with a number. -/
def goesOn (c : Char) : Bool := isDigit c || c == '.' || c == 'e' || c == 'E'

theorem isDigit_eq (c : Char) : isDigit c = c.isDigit := rfl

theorem Stops.digits {s : List Char} (h : Stops goesOn s) : Stops isDigit s := by
  intro c hc
  have hgoes := h c hc
  simp only [goesOn, Bool.or_eq_false_iff] at hgoes
  exact hgoes.1.1.1

/-- A whole part is all of a number, unless the text goes on with it. -/
theorem readFraction_stop {s : List Char} (h : Stops goesOn s) (negative : Bool)
    (whole : List Char) :
    readFraction negative whole s = .number ⟨negative, whole, none, none, s⟩ := by
  cases s with
  | nil => rfl
  | cons c s =>
      have hgoes := (Text.stops_cons goesOn c s).1 h
      simp only [goesOn, Bool.or_eq_false_iff, beq_eq_false_iff_ne] at hgoes
      obtain ⟨⟨⟨-, hpoint⟩, hsmall⟩, hlarge⟩ := hgoes
      unfold readFraction
      split
      · simp_all
      · unfold readScale
        split <;> simp_all

/-- **A written number is read back.** -/
theorem readNumber_toDigits (n : Nat) {rest : List Char} (h : Stops goesOn rest) :
    readNumber false (Nat.toDigits 10 n ++ rest) =
      .number ⟨false, Nat.toDigits 10 n, none, none, rest⟩ := by
  by_cases hn : n = 0
  · subst hn
    rw [Nat.toDigits_zero, List.singleton_append]
    cases rest with
    | nil => rfl
    | cons c s =>
        have hdigit := (Text.stops_cons isDigit c s).1 (Stops.digits h)
        simp only [readNumber, hdigit, Bool.false_eq_true, if_false]
        exact readFraction_stop h false ['0']
  · have hzero := Text.head?_toDigits_ne_zero hn
    have hall : ∀ c ∈ Nat.toDigits 10 n, isDigit c = true := fun c hc =>
      (isDigit_eq c).trans (Text.isDigit_of_mem_toDigits hc)
    have htake := Text.takeWhile_append_stop hall (Stops.digits h)
    have hdrop := Text.dropWhile_append_stop hall (Stops.digits h)
    obtain ⟨d, ds, hds⟩ := List.exists_cons_of_ne_nil (Nat.toDigits_ne_nil (n := n) (b := 10))
    rw [hds] at hzero htake hdrop ⊢
    have hd : d ≠ '0' := by simpa using hzero
    unfold readNumber
    split
    · simp_all
    · rw [htake, hdrop]
      simp only [List.isEmpty_cons, Bool.false_eq_true, if_false]
      exact readFraction_stop h false (d :: ds)

/-! ### Trees of written values -/

def itemsTail : List Json → List Char
  | [] => [']']
  | v :: vs => ',' :: renderItems (v :: vs)

def membersTail : List (String × Json) → List Char
  | [] => ['\x7d']
  | m :: ms => ',' :: renderMembers (m :: ms)

theorem renderItems_cons (v : Json) (vs : List Json) :
    renderItems (v :: vs) = renderChars v ++ itemsTail vs := by
  cases vs <;> simp [renderItems, itemsTail]

theorem renderMembers_cons (k : String) (v : Json) (ms : List (String × Json)) :
    renderMembers ((k, v) :: ms) = renderString k ++ ':' :: (renderChars v ++ membersTail ms) := by
  cases ms <;> simp [renderMembers, membersTail]

theorem stops_itemsTail (vs : List Json) (rest : List Char) :
    Stops goesOn (itemsTail vs ++ rest) := by
  cases vs <;> simp [itemsTail] <;> decide

theorem stops_membersTail (ms : List (String × Json)) (rest : List Char) :
    Stops goesOn (membersTail ms ++ rest) := by
  cases ms <;> simp [membersTail] <;> decide

mutual

/-- The tree of a written value, with a text behind it. -/
def tree (rest : List Char) : Json → Node
  | .null => .null rest
  | .bool b => .bool b rest
  | .nat n => .number ⟨false, Nat.toDigits 10 n, none, none, rest⟩
  | .string s => .string ⟨.ok s, .ok rest⟩
  | .array items => .array ('[' :: (renderItems items ++ rest)) (treeItems rest items)
  | .object members => .object ('\x7b' :: (renderMembers members ++ rest)) (treeMembers rest members)

def treeItems (rest : List Char) : List Json → Items
  | [] => .close rest
  | v :: vs => .cons (renderItems (v :: vs) ++ rest) (tree (itemsTail vs ++ rest) v) (treeItems rest vs)

/-- The trees of written members. -/
def treeMembers (rest : List Char) : List (String × Json) → Members
  | [] => .close rest
  | (k, v) :: ms =>
    .cons ⟨.ok k, .ok (':' :: (renderChars v ++ (membersTail ms ++ rest)))⟩
      (tree (membersTail ms ++ rest) v) (treeMembers rest ms)

end

mutual

/-- The tree of a value ends where the value does. -/
theorem after?_tree (rest : List Char) : ∀ v : Json, (tree rest v).after? = some rest
  | .null => rfl
  | .bool _ => rfl
  | .nat _ => rfl
  | .string _ => rfl
  | .array items => by
      simp only [tree, Node.after?]
      exact after?_treeItems rest items
  | .object members => by
      simp only [tree, Node.after?]
      exact after?_treeMembers rest members

theorem after?_treeItems (rest : List Char) : ∀ vs : List Json, (treeItems rest vs).after? = some rest
  | [] => rfl
  | v :: vs => by
      simp only [treeItems, Items.after?]
      exact after?_treeItems rest vs

theorem after?_treeMembers (rest : List Char) :
    ∀ ms : List (String × Json), (treeMembers rest ms).after? = some rest
  | [] => rfl
  | (k, v) :: ms => by
      simp only [treeMembers, Members.after?]
      exact after?_treeMembers rest ms

end

/-! ### Reading -/

theorem skipBlank_cons {c : Char} (h : c ∉ [' ', '\n', '\t', '\r']) (s : List Char) :
    skipBlank (c :: s) = c :: s := by
  simp only [List.mem_cons, List.not_mem_nil, or_false, not_or] at h
  simp [skipBlank, h]

theorem ne_of_isDigit {d : Char} (h : isDigit d = true) :
    d ∉ [' ', '\n', '\t', '\r', 'n', 't', 'f', '"', '-', '[', '\x7b', ']'] :=
  Text.not_mem_of_any (by decide) h

/-- A written value begins neither with a blank nor with a closing bracket. -/
theorem exists_renderChars_eq_cons (v : Json) :
    ∃ c t, renderChars v = c :: t ∧ c ∉ [' ', '\n', '\t', '\r', ']'] := by
  cases v with
  | null => exact ⟨'n', _, rfl, by decide⟩
  | bool b =>
      cases b with
      | true => exact ⟨'t', _, rfl, by decide⟩
      | false => exact ⟨'f', _, rfl, by decide⟩
  | nat n =>
      obtain ⟨d, ds, hds⟩ := List.exists_cons_of_ne_nil (Nat.toDigits_ne_nil (n := n) (b := 10))
      have hd : isDigit d = true := Text.isDigit_of_mem_toDigits (n := n) (by simp [hds])
      exact ⟨d, ds, hds, Text.not_mem_of_any (by decide) hd⟩
  | string s => exact ⟨'"', _, rfl, by decide⟩
  | array items => exact ⟨'[', _, rfl, by decide⟩
  | object members => exact ⟨'\x7b', _, rfl, by decide⟩

theorem exists_renderItems_eq_cons (v : Json) (vs : List Json) (rest : List Char) :
    ∃ c t, renderItems (v :: vs) ++ rest = c :: t ∧ c ∉ [' ', '\n', '\t', '\r', ']'] := by
  obtain ⟨c, t, hc, hne⟩ := exists_renderChars_eq_cons v
  refine ⟨c, t ++ (itemsTail vs ++ rest), ?_, hne⟩
  rw [renderItems_cons, hc, List.append_assoc, List.cons_append]

theorem renderMembers_eq_cons (m : String × Json) (ms : List (String × Json)) (rest : List Char) :
    renderMembers (m :: ms) ++ rest = '"' :: ((renderMembers (m :: ms)).tail ++ rest) := by
  rw [renderMembers_cons]
  rfl

theorem readValue_bracket (n : Nat) (s : List Char) :
    readValue (n + 1) ('[' :: s) =
      .array ('[' :: s) (match skipBlank s with
        | [] => .stop .ended
        | d :: r => if d = ']' then .close r else readItems n (d :: r)) := rfl

theorem readValue_brace (n : Nat) (s : List Char) :
    readValue (n + 1) ('\x7b' :: s) =
      .object ('\x7b' :: s) (match skipBlank s with
        | [] => .stop .ended
        | d :: r =>
          if d = '\x7d' then .close r
          else if d = '"' then readMembers n r
          else .stop (.keyless (d :: r))) := rfl

/-- One step of reading a written number. -/
theorem readValue_toDigits (n m : Nat) {rest : List Char} (h : Stops goesOn rest) :
    readValue (m + 1) (Nat.toDigits 10 n ++ rest) = tree rest (.nat n) := by
  have hread := readNumber_toDigits n h
  obtain ⟨d, ds, hds⟩ := List.exists_cons_of_ne_nil (Nat.toDigits_ne_nil (n := n) (b := 10))
  have hd : isDigit d = true := Text.isDigit_of_mem_toDigits (n := n) (by simp [hds])
  have hne := ne_of_isDigit hd
  simp only [List.mem_cons, List.not_mem_nil, or_false, not_or] at hne
  rw [hds, List.cons_append] at hread ⊢
  rw [readValue, skipBlank_cons (by simp [hne])]
  simp only [hne, if_false, hd, if_true, hread]
  simp [tree, hds]

mutual

/-- **A written value is read as its tree**: in two steps for each of its characters, whatever stands
behind it. -/
theorem readValue_written : ∀ (v : Json) (n : Nat) (rest : List Char),
    2 * (renderChars v).length ≤ n → Stops goesOn rest →
      readValue n (renderChars v ++ rest) = tree rest v
  | .null, 0, rest, hn, _ => by simp [renderChars] at hn
  | .null, n + 1, rest, _, _ => by simp [renderChars, readValue, skipBlank_cons, readWord, tree]
  | .bool true, 0, rest, hn, _ => by simp [renderChars] at hn
  | .bool true, n + 1, rest, _, _ => by
      simp [renderChars, readValue, skipBlank_cons, readWord, tree]
  | .bool false, 0, rest, hn, _ => by simp [renderChars] at hn
  | .bool false, n + 1, rest, _, _ => by
      simp [renderChars, readValue, skipBlank_cons, readWord, tree]
  | .nat m, 0, rest, hn, _ => by
      have hpos := Nat.length_toDigits_pos (b := 10) (n := m)
      simp only [renderChars] at hn
      omega
  | .nat m, n + 1, rest, _, h => readValue_toDigits m n h
  | .string s, 0, rest, hn, _ => by simp [renderChars, renderString] at hn
  | .string s, n + 1, rest, _, _ => by
      have hread := readString_escaped s rest
      simp [renderChars, renderString, readValue, skipBlank_cons, tree, hread]
  | .array items, 0, rest, hn, _ => by simp [renderChars] at hn
  | .array [], n + 1, rest, _, _ => by
      simp [renderChars, renderItems, readValue_bracket, skipBlank_cons, tree, treeItems]
  | .array (v :: vs), n + 1, rest, hn, _ => by
      simp only [renderChars, List.length_cons] at hn
      have hitems := readItems_written (v :: vs) n rest (by simp) (by omega)
      obtain ⟨c, t, hhead, hne⟩ := exists_renderItems_eq_cons v vs rest
      simp only [List.mem_cons, List.not_mem_nil, or_false, not_or] at hne
      rw [hhead] at hitems
      rw [renderChars, List.cons_append, readValue_bracket, hhead, skipBlank_cons (by simp [hne])]
      simp only [hne, if_false, hitems]
      rw [tree, hhead]
  | .object members, 0, rest, hn, _ => by simp [renderChars] at hn
  | .object [], n + 1, rest, _, _ => by
      simp [renderChars, renderMembers, readValue_brace, skipBlank_cons, tree, treeMembers]
  | .object ((k, v) :: ms), n + 1, rest, hn, _ => by
      simp only [renderChars, List.length_cons] at hn
      have hmembers := readMembers_written k v ms n rest (by omega)
      have hhead := renderMembers_eq_cons (k, v) ms rest
      rw [renderChars, List.cons_append, readValue_brace, hhead, skipBlank_cons (by decide)]
      simp only [hmembers]
      rw [tree, hhead]
      rfl

/-- Written items are read as their trees. -/
theorem readItems_written : ∀ (vs : List Json) (n : Nat) (rest : List Char), vs ≠ [] →
    2 * (renderItems vs).length + 1 ≤ n → readItems n (renderItems vs ++ rest) = treeItems rest vs
  | vs, 0, rest, _, hn => by omega
  | [], n + 1, rest, hne, _ => absurd rfl hne
  | v :: vs, n + 1, rest, _, hn => by
      rw [renderItems_cons, List.length_append] at hn
      have hvalue := readValue_written v n (itemsTail vs ++ rest) (by omega)
        (stops_itemsTail vs rest)
      rw [treeItems, readItems, renderItems_cons, List.append_assoc, hvalue, after?_tree]
      cases vs with
      | nil => simp [itemsTail, skipBlank_cons, treeItems]
      | cons w ws =>
          simp only [itemsTail, List.length_cons] at hn
          have hitems := readItems_written (w :: ws) n rest (by simp) (by omega)
          obtain ⟨c, t, hhead, hne⟩ := exists_renderItems_eq_cons w ws rest
          simp only [List.mem_cons, List.not_mem_nil, or_false, not_or] at hne
          rw [hhead] at hitems
          simp only [itemsTail, List.cons_append, hhead]
          rw [skipBlank_cons (by decide)]
          simp only [Char.reduceEq, if_false, if_true]
          rw [skipBlank_cons (by simp [hne])]
          simp only [hne, if_false, hitems]

/-- Written members are read as their trees, from behind the quote of the first key on. -/
theorem readMembers_written : ∀ (k : String) (v : Json) (ms : List (String × Json)) (n : Nat)
    (rest : List Char), 2 * (renderMembers ((k, v) :: ms)).length + 1 ≤ n →
      readMembers n ((renderMembers ((k, v) :: ms)).tail ++ rest) = treeMembers rest ((k, v) :: ms)
  | k, v, ms, 0, rest, hn => by omega
  | k, v, ms, n + 1, rest, hn => by
      rw [renderMembers_cons, List.length_append, List.length_cons, List.length_append] at hn
      have hkey : (renderMembers ((k, v) :: ms)).tail ++ rest =
          k.toList.flatMap escapeChar ++
            '"' :: (':' :: (renderChars v ++ (membersTail ms ++ rest))) := by
        rw [renderMembers_cons]
        simp [renderString]
      have hvalue := readValue_written v n (membersTail ms ++ rest) (by omega)
        (stops_membersTail ms rest)
      rw [treeMembers, readMembers, hkey, readString_escaped]
      simp only
      rw [skipBlank_cons (by decide)]
      simp only [if_true, hvalue, after?_tree]
      cases ms with
      | nil => simp [membersTail, skipBlank_cons, treeMembers]
      | cons m ms =>
          obtain ⟨l, w⟩ := m
          simp only [membersTail, List.length_cons] at hn
          have hmembers := readMembers_written l w ms n rest (by omega)
          have hhead := renderMembers_eq_cons (l, w) ms rest
          simp only [membersTail, List.cons_append, hhead]
          rw [skipBlank_cons (by decide)]
          simp only [Char.reduceEq, if_false, if_true]
          rw [skipBlank_cons (by decide)]
          simp only [if_true, hmembers]

end

/-- **The text of a value is read as its tree.** -/
theorem read_render (v : Json) : read v.render.toList = tree [] v := by
  have hread := readValue_written v (2 * (renderChars v).length + 2) [] (by omega) (by simp)
  rw [List.append_nil] at hread
  rw [render, String.toList_ofList, read, hread]

end FirmwareCatalog.Json
