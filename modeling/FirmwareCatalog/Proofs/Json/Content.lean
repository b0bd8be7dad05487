/-
**What a text says.**

The tree of a text says where every part of it ends, because faults are told by their places.  What
a decoder returns when it succeeds depends on none of that.  So the tree is reduced to its content:
the values, the keys with their order, and the digits of the numbers.

A tree has a content exactly if it can be gone through without a fault, and the number that a
literal stands for is the same for all trees with its content.

Main definitions:

* `Json.Content` — what a text says;
* `Json.Node.content?`, `Json.content?` — the content of a tree, and of a whole text;
* `Json.Node.Ends` — a tree with a content and a text behind it.

Main results:

* `Json.Node.eq_null`, `Json.Items.eq_cons`, `Json.Members.eq_cons`, … — the trees with a content;
* `Json.Node.skip_eq_ok_iff` — **a value is skipped without a fault exactly if it has a content**;
* `Json.Numeral.read_bare_eq_ok_iff` — literals.
-/
import FirmwareCatalog.Json.Decode
import FirmwareCatalog.Proofs.Outcome

set_option relaxedAutoImplicit false
set_option autoImplicit false

namespace FirmwareCatalog.Json

/-! ### Contents -/

/-- What a JSON text says.  A string with an unpaired surrogate has no text. -/
inductive Content where
  | null
  | bool (b : Bool)
  | number (literal : Numeral)
  | string (s : Option String)
  | array (items : List Content)
  | object (members : List (Option String × Content))

def Numeral.bare (l : Numeral) : Numeral :=
  ⟨l.negative, l.whole, l.fraction, l.exponent.map fun e => ⟨e.negative, e.digits, []⟩, []⟩

def StringToken.text? (t : StringToken) : Option String :=
  match t.value, t.after with
  | .ok s, .ok _ => some s
  | _, _ => none

mutual

/-- The content of a value, if it is complete. -/
def Node.content? : Node → Option Content
  | .null _ => some .null
  | .bool b _ => some (.bool b)
  | .number literal => some (.number literal.bare)
  | .badNumber _ => none
  | .string token => token.after.toOption.map fun _ => .string token.text?
  | .array _ items => items.content?.map .array
  | .object _ members => members.content?.map .object
  | .absent _ => none

/-- The contents of the items of an array. -/
def Items.content? : Items → Option (List Content)
  | .cons _ head tail =>
    match head.content?, tail.content? with
    | some c, some cs => some (c :: cs)
    | _, _ => none
  | .close _ => some []
  | .stop _ => none

/-- The keys and the contents of the members of an object. -/
def Members.content? : Members → Option (List (Option String × Content))
  | .cons key value tail =>
    match value.content?, tail.content? with
    | some c, some ms => some ((key.text?, c) :: ms)
    | _, _ => none
  | .close _ => some []
  | .stop _ => none
  | .cut _ => none

end

/-- The content of a whole text: that of its first value, with nothing but blanks after it. -/
def content? (s : String) : Option Content :=
  let node := read s.toList
  match node.after? with
  | none => none
  | some rest => if (skipBlank rest).isEmpty then node.content? else none

/-! ### Trees with a given content -/

section Inversion

variable {node : Node} {items : Items} {members : Members}

theorem Node.eq_null (h : node.content? = some .null) : ∃ after, node = .null after := by
  cases node with
  | null after => exact ⟨after, rfl⟩
  | _ => simp [Node.content?] at h

theorem Node.eq_array {cs : List Content} (h : node.content? = some (.array cs)) :
    ∃ start items, node = .array start items ∧ items.content? = some cs := by
  cases node with
  | array start items => exact ⟨start, items, rfl, by simpa [Node.content?] using h⟩
  | _ => simp [Node.content?] at h

theorem Node.eq_object {ms : List (Option String × Content)}
    (h : node.content? = some (.object ms)) :
    ∃ start members, node = .object start members ∧ members.content? = some ms := by
  cases node with
  | object start members => exact ⟨start, members, rfl, by simpa [Node.content?] using h⟩
  | _ => simp [Node.content?] at h

theorem Items.eq_close (h : items.content? = some []) : ∃ after, items = .close after := by
  cases items with
  | close after => exact ⟨after, rfl⟩
  | cons start head tail =>
      rw [Items.content?] at h
      split at h <;> simp at h
  | stop why => simp [Items.content?] at h

theorem Items.eq_cons {c : Content} {cs : List Content} (h : items.content? = some (c :: cs)) :
    ∃ start head tail, items = .cons start head tail ∧ head.content? = some c ∧
      tail.content? = some cs := by
  cases items with
  | close after => simp [Items.content?] at h
  | cons start head tail =>
      rw [Items.content?] at h
      split at h
      · rename_i hhead htail
        cases h
        exact ⟨start, head, tail, rfl, hhead, htail⟩
      · cases h
  | stop why => simp [Items.content?] at h

theorem Members.eq_close (h : members.content? = some []) : ∃ after, members = .close after := by
  cases members with
  | close after => exact ⟨after, rfl⟩
  | cons key value tail =>
      rw [Members.content?] at h
      split at h <;> simp at h
  | stop why => simp [Members.content?] at h
  | cut key => simp [Members.content?] at h

theorem Members.eq_cons {k : Option String} {c : Content} {ms : List (Option String × Content)}
    (h : members.content? = some ((k, c) :: ms)) :
    ∃ key value tail, members = .cons key value tail ∧ key.text? = k ∧
      value.content? = some c ∧ tail.content? = some ms := by
  cases members with
  | close after => simp [Members.content?] at h
  | cons key value tail =>
      rw [Members.content?] at h
      split at h
      · rename_i hvalue htail
        cases h
        exact ⟨key, value, tail, rfl, rfl, hvalue, htail⟩
      · cases h
  | stop why => simp [Members.content?] at h
  | cut key => simp [Members.content?] at h

end Inversion

/-! ### Trees with a text behind them -/

/-- A value with the given content and the given text behind it. -/
def Node.Ends (node : Node) (c : Content) (rest : List Char) : Prop :=
  node.content? = some c ∧ node.after? = some rest

/-- Items with the given contents and the given text behind them. -/
def Items.Ends (items : Items) (cs : List Content) (rest : List Char) : Prop :=
  items.content? = some cs ∧ items.after? = some rest

/-- Members with the given keys and contents, and the given text behind them. -/
def Members.Ends (members : Members) (ms : List (Option String × Content)) (rest : List Char) :
    Prop := members.content? = some ms ∧ members.after? = some rest

/-! ### Skipped values -/

mutual

/-- **A value is skipped without a fault exactly if it has a content.** -/
theorem Node.skip_eq_ok_iff : ∀ node : Node, node.skip = .ok () ↔ ∃ c, node.content? = some c
  | .null _ => by simp [Node.skip, Node.content?]
  | .bool _ _ => by simp [Node.skip, Node.content?]
  | .number _ => by simp [Node.skip, Node.content?]
  | .badNumber _ => by simp [Node.skip, Node.content?]
  | .string token => by
      rw [Node.skip, Node.content?]
      cases token.after <;> simp [Except.map, Except.toOption]
  | .array _ items => by
      simp only [Node.skip, Node.content?, Items.skip_eq_ok_iff items, Option.map_eq_some_iff]
      exact ⟨fun ⟨cs, hcs⟩ => ⟨_, cs, hcs, rfl⟩, fun ⟨_, cs, hcs, _⟩ => ⟨cs, hcs⟩⟩
  | .object _ members => by
      simp only [Node.skip, Node.content?, Members.skip_eq_ok_iff members, Option.map_eq_some_iff]
      exact ⟨fun ⟨ms, hms⟩ => ⟨_, ms, hms, rfl⟩, fun ⟨_, ms, hms, _⟩ => ⟨ms, hms⟩⟩
  | .absent _ => by simp [Node.skip, Node.content?]

theorem Items.skip_eq_ok_iff : ∀ items : Items, items.skip = .ok () ↔ ∃ cs, items.content? = some cs
  | .cons _ head tail => by
      have hhead := Node.skip_eq_ok_iff head
      have htail := Items.skip_eq_ok_iff tail
      rw [Items.skip, check_eq_ok_iff, hhead, htail, Items.content?]
      cases head.content? <;> cases tail.content? <;> simp
  | .close _ => by simp [Items.skip, Items.content?]
  | .stop _ => by simp [Items.skip, Items.content?]

theorem Members.skip_eq_ok_iff : ∀ members : Members,
    members.skip = .ok () ↔ ∃ ms, members.content? = some ms
  | .cons _ value tail => by
      have hvalue := Node.skip_eq_ok_iff value
      have htail := Members.skip_eq_ok_iff tail
      rw [Members.skip, check_eq_ok_iff, hvalue, htail, Members.content?]
      cases value.content? <;> cases tail.content? <;> simp
  | .close _ => by simp [Members.skip, Members.content?]
  | .stop _ => by simp [Members.skip, Members.content?]
  | .cut key => by
      rw [Members.skip, Members.content?]
      cases key.after <;> simp

end

/-! ### Literals -/

namespace Numeral

/-- Whether an exponent can be read does not depend on where it stands. -/
theorem exponentValue_eq_ok_iff (ds : List Char) : ∀ (n k : Nat) (r r' : List Char),
    exponentValue n ds r = .ok k ↔ exponentValue n ds r' = .ok k := by
  induction ds with
  | nil =>
      intro n k r r'
      rfl
  | cons d ds ih =>
      intro n k r r'
      rw [exponentValue, exponentValue]
      split
      · simp
      · exact ih _ k _ _

theorem real_bare_eq_ok_iff {l : Numeral} {m : Nat} {e : Int} {n : Number} :
    l.bare.real m e = .ok n ↔ l.real m e = .ok n := by
  unfold real
  cases scale 8 (Magnitude.ofRatio m 1) e <;> simp [bare]

/-- **The number that a literal stands for does not depend on what is behind it.** -/
theorem read_bare_eq_ok_iff {l : Numeral} {n : Number} :
    l.bare.read = .ok n ↔ l.read = .ok n := by
  obtain ⟨negative, whole, fraction, exponent, after⟩ := l
  have hreal (m : Nat) (e : Int) := @real_bare_eq_ok_iff
    ⟨negative, whole, fraction, exponent, after⟩ m e n
  unfold read
  have hwhole : (Numeral.bare ⟨negative, whole, fraction, exponent, after⟩).whole = whole := rfl
  rw [hwhole]
  generalize leadingDigits 0 whole = leading at *
  obtain ⟨k, dropped⟩ := leading
  dsimp only [bare] at hreal ⊢
  cases exponent with
  | none =>
      cases fraction with
      | none =>
          dsimp only [Option.map] at hreal ⊢
          by_cases hdropped : 0 < dropped
          · simp only [if_pos hdropped]
            exact hreal _ _
          cases negative with
          | false => simp only [if_neg hdropped, Bool.false_eq_true, if_false]
          | true =>
              by_cases hreals : k = 0 ∨ 0x8000000000000000 < k
              · simp only [if_neg hdropped, if_true, if_pos hreals]
                exact hreal _ _
              · simp only [if_neg hdropped, if_true, if_neg hreals]
      | some ds => exact hreal _ _
  | some e =>
      -- only the fault of an exponent that is too large says what stands behind it
      obtain ⟨down, digits, start⟩ := e
      have hexponent (j : Nat) := exponentValue_eq_ok_iff digits 0 j [] start
      dsimp only [Option.map] at hreal ⊢
      cases hvalue : exponentValue 0 digits start with
      | ok j =>
          simp only [(hexponent j).2 hvalue, hvalue]
          exact hreal _ _
      | error rest =>
          cases hbare : exponentValue 0 digits [] with
          | ok j =>
              rw [(hexponent j).1 hbare] at hvalue
              cases hvalue
          | error rest' =>
              simp only [hbare, hvalue]
              by_cases hlarge : (fractionDigits k (fraction.getD [])).1 ≠ 0 ∧ down = false
              · simp only [if_pos hlarge, reduceCtorEq]
              · simp only [if_neg hlarge]

end Numeral

/-! ### Whole texts -/

/-- Nothing but blanks follows the first value of a text. -/
def IsWhole (s : String) : Prop :=
  ∃ rest, (read s.toList).after? = some rest ∧ skipBlank rest = []

theorem content?_eq_some_iff {s : String} {c : Content} :
    content? s = some c ↔ (read s.toList).content? = some c ∧ IsWhole s := by
  unfold content? IsWhole
  cases hafter : (read s.toList).after? with
  | none => simp [hafter]
  | some rest =>
      by_cases hrest : skipBlank rest = []
      · simp [hafter, hrest]
      · simp [hafter, hrest]

theorem decode_eq_ok_iff {α : Type} {decoder : Decoder α} {s : String} {a : α} :
    decode decoder s = .ok a ↔ decoder (read s.toList) = .ok a ∧ IsWhole s := by
  have hchars : decode decoder s = .ok a ↔ decodeChars decoder s.toList = .ok a := by
    unfold decode
    cases decodeChars decoder s.toList <;> constructor <;> intro h <;> cases h <;> rfl
  rw [hchars, decodeChars, bind_eq_ok_iff, IsWhole]
  cases (read s.toList).after? with
  | none => simp
  | some rest =>
      dsimp only
      cases hrest : skipBlank rest <;> simp [hrest]

end FirmwareCatalog.Json
