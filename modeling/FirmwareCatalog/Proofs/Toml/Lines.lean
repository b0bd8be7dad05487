/-
**Written lines are read back.**

A document is written as a header and lines with one key and one value each.  A key is written
without quotes, which its characters have to allow; a value ends at the end of its line.

Main definitions:

* `Toml.Reads` — a text is the lines given, each one read up to the next.

Main results:

* `Toml.valueIn?_quote` — texts;
* `Toml.Reads.header`, `Toml.Reads.pair` — the lines;
* `Toml.Reads.parse?` — **a table is read back** from its header and its lines;
* `Toml.parseWith?_literal` — a table with an integer of any size.
-/
import FirmwareCatalog.Proofs.Toml.Literals
import FirmwareCatalog.Proofs.Toml.Quoted

set_option relaxedAutoImplicit false
set_option autoImplicit false

namespace FirmwareCatalog.Toml

open Text (Stops)

/-! ### Values -/

/-- A text on a line is read back as a value. -/
theorem valueIn?_quote (s rest : List Char) :
    valueIn? (quote s ++ '\n' :: rest) = some (.string s, '\n' :: rest) := by
  have hstring : string? (quote s ++ '\n' :: rest) = some (s, '\n' :: rest) :=
    string?_quote s (by simp [StopsQuotes]) (by simp [StopsQuotes])
  obtain ⟨c, t, hc, hquote⟩ : ∃ c t, (c = '"' ∨ c = '\'') ∧ quote s = c :: t := by
    unfold quote
    dsimp only
    cases Quoting.choose s with
    | basic => exact ⟨_, _, Or.inl rfl, rfl⟩
    | literal => exact ⟨_, _, Or.inr rfl, rfl⟩
    | longBasic => exact ⟨_, _, Or.inl rfl, rfl⟩
    | longLiteral => exact ⟨_, _, Or.inr rfl, rfl⟩
  rw [hquote, List.cons_append] at hstring ⊢
  have hscalar : scalar? (c :: (t ++ '\n' :: rest)) = some (.string s, '\n' :: rest) := by
    simp [scalar?, hc, hstring]
  rw [valueIn?, value?]
  · exact hscalar
  · rintro r h
    obtain rfl : c = '[' := (List.cons.inj h).1
    rcases hc with h | h <;> cases h
  · rintro r h
    obtain rfl : c = '\x7b' := (List.cons.inj h).1
    rcases hc with h | h <;> cases h

/-! ### Keys -/

/-- A key that is written without quotes. -/
def IsBareKey (k : List Char) : Prop := k ≠ [] ∧ ∀ c ∈ k, isKeyChar c = true

instance (k : List Char) : Decidable (IsBareKey k) :=
  decidable_of_iff (k ≠ [] ∧ k.all isKeyChar = true) (and_congr_right' List.all_eq_true)

theorem skipLines_cons {c : Char} (hblank : isBlank c = false) (hmark : c ≠ '#') (hline : c ≠ '\n')
    (hreturn : c ≠ '\r') (s : List Char) : skipLines (c :: s) = c :: s := by
  rw [skipLines, skipLinesFrom]
  · simp [hblank, hmark]
  · simpa using hline
  · intro r h
    exact absurd h hreturn

section Keys

variable {k : List Char} (hk : IsBareKey k)

include hk

/-- A key begins with a character that begins nothing else. -/
theorem IsBareKey.exists_cons :
    ∃ c cs, k = c :: cs ∧ isKeyChar c = true ∧ isBlank c = false ∧
      ∀ d ∈ ['"', '\'', '[', '#', '\n', '\r'], c ≠ d := by
  obtain ⟨hne, hall⟩ := hk
  obtain ⟨c, cs, rfl⟩ := List.exists_cons_of_ne_nil hne
  have hc : isKeyChar c = true := hall c List.mem_cons_self
  have hother (d : Char) (hd : isKeyChar d = false) : c ≠ d := by
    rintro rfl
    rw [hc] at hd
    cases hd
  have hblank : isBlank c = false := by
    simp [isBlank, hother ' ' (by decide), hother '\t' (by decide)]
  have hnone : ['"', '\'', '[', '#', '\n', '\r'].all (fun d => !isKeyChar d) = true := by decide
  exact ⟨c, cs, rfl, hc, hblank, fun d hd => hother d (by simpa using List.all_eq_true.1 hnone d hd)⟩

/-- **A key without quotes is read back**, up to what is no part of it. -/
theorem path?_bare {rest : List Char} (hrest : Stops isKeyChar rest)
    (hdot : ∀ u, skipBlanks rest ≠ '.' :: u) :
    path? (k ++ rest) = some ([k], skipBlanks rest) := by
  obtain ⟨c, cs, hcons, -, hblank, hother⟩ := hk.exists_cons
  have hskip : skipBlanks (k ++ rest) = k ++ rest := by
    rw [hcons, skipBlanks, List.cons_append, List.dropWhile_cons_of_neg (by simp [hblank])]
  have htake : (k ++ rest).takeWhile isKeyChar = k := Text.takeWhile_append_stop hk.2 hrest
  have hkey : key? (k ++ rest) = some (k, rest) := by
    rw [key?]
    · simp [htake, hk.1]
    · rintro r h
      rw [hcons] at h
      exact hother '"' (by decide) (List.cons.inj h).1
    · rintro r h
      rw [hcons] at h
      exact hother '\'' (by decide) (List.cons.inj h).1
  rw [path?, depthLimit, keyParts?, hskip, hkey]
  simp only [Option.bind_eq_bind, Option.bind_some]

end Keys

/-! ### Lines -/

/-- A text is the lines given: each one is read up to the next, and the next line begins there. -/
inductive Reads : List Line → List Char → Prop
  | nil : Reads [] []
  | cons {l : Line} {ls : List Line} {c : Char} {s rest : List Char}
      (begins : skipLines (c :: s) = c :: s) (line : line? (c :: s) = some (l, rest))
      (shorter : rest.length ≤ s.length) (lines : Reads ls rest) : Reads (l :: ls) (c :: s)

namespace Reads

variable {ls : List Line} {s : List Char}

/-- The lines of a text are those that it is. -/
theorem linesUpTo? (h : Reads ls s) : ∀ n, s.length < n → linesUpTo? n s = some ls := by
  induction h with
  | nil =>
      intro n hn
      obtain ⟨n, rfl⟩ := Nat.exists_eq_succ_of_ne_zero (Nat.ne_of_gt hn)
      rfl
  | @cons l ls c s rest begins line shorter lines ih =>
      intro n hn
      obtain ⟨n, rfl⟩ := Nat.exists_eq_succ_of_ne_zero (Nat.ne_of_gt (Nat.zero_lt_of_lt hn))
      have hrest : Toml.linesUpTo? n rest = some ls := ih n (by simp at hn; omega)
      rw [Toml.linesUpTo?, begins]
      simp [line, hrest]

theorem endOfLine?_line (s : List Char) : endOfLine? ('\n' :: s) = some s := rfl

/-- A header in front of lines. -/
theorem header (h : Reads ls s) {k : List Char} (hk : IsBareKey k) :
    Reads (.header [k] :: ls) ('[' :: (k ++ ']' :: '\n' :: s)) := by
  have hpath : path? (k ++ ']' :: '\n' :: s) = some ([k], ']' :: '\n' :: s) :=
    path?_bare hk (by rw [Text.stops_cons]; decide) (by simp [skipBlanks, isBlank])
  refine .cons (skipLines_cons rfl (by decide) (by decide) (by decide) _) ?_ ?_ h
  · obtain ⟨c, cs, hcons, -, -, hother⟩ := hk.exists_cons
    rw [line?]
    · simp only [hpath, Option.bind_eq_bind, Option.bind_some, character?, if_true, endOfLine?_line]
    · rintro r hr
      rw [hcons, List.cons_append] at hr
      exact hother '[' (by decide) (List.cons.inj hr).1
  · simp
    omega

/-- A key and a value in front of lines. -/
theorem pair (h : Reads ls s) {k : List Char} (hk : IsBareKey k) {v : Toml} {written : List Char}
    (hread : valueIn? (written ++ '\n' :: s) = some (v, '\n' :: s))
    (hblank : Stops isBlank written) (hne : written ≠ []) :
    Reads (.pair [k] v :: ls) (k ++ ' ' :: '=' :: ' ' :: (written ++ '\n' :: s)) := by
  obtain ⟨w, ws, hw⟩ := List.exists_cons_of_ne_nil hne
  have hpath : path? (k ++ ' ' :: '=' :: ' ' :: (written ++ '\n' :: s)) =
      some ([k], '=' :: ' ' :: (written ++ '\n' :: s)) :=
    path?_bare hk (by rw [Text.stops_cons]; decide) (by simp [skipBlanks, isBlank])
  have hskip : skipBlanks (' ' :: (written ++ '\n' :: s)) = written ++ '\n' :: s := by
    rw [hw] at hblank ⊢
    have hwblank := (Text.stops_cons isBlank w ws).1 hblank
    simp [skipBlanks, hwblank, show isBlank ' ' = true from rfl]
  obtain ⟨c, cs, hcons, -, hcblank, hother⟩ := hk.exists_cons
  rw [hcons, List.cons_append] at hpath ⊢
  refine .cons (skipLines_cons hcblank (hother _ (by decide)) (hother _ (by decide))
    (hother _ (by decide)) _) ?_ ?_ h
  · rw [line?]
    · simp only [hpath, Option.bind_eq_bind, Option.bind_some, character?, if_true, hskip, hread,
        endOfLine?_line]
    · rintro r hr
      exact hother '[' (by decide) (List.cons.inj hr).1
    · rintro r hr
      exact hother '[' (by decide) (List.cons.inj hr).1
  · simp
    omega

/-- A text in front of lines. -/
theorem text (h : Reads ls s) {k : List Char} (hk : IsBareKey k) (v : List Char) :
    Reads (.pair [k] (.string v) :: ls) (k ++ ' ' :: '=' :: ' ' :: (quote v ++ '\n' :: s)) := by
  have hstart : ∃ c t, isBlank c = false ∧ quote v = c :: t := by
    unfold quote
    dsimp only
    cases Quoting.choose v with
    | basic => exact ⟨_, _, rfl, rfl⟩
    | literal => exact ⟨_, _, rfl, rfl⟩
    | longBasic => exact ⟨_, _, rfl, rfl⟩
    | longLiteral => exact ⟨_, _, rfl, rfl⟩
  obtain ⟨c, t, hc, hquote⟩ := hstart
  exact h.pair hk (valueIn?_quote v s) (by simp [hquote, hc]) (by simp [hquote])

/-- A whole number in front of lines. -/
theorem number (h : Reads ls s) {k : List Char} (hk : IsBareKey k) {n : Nat}
    (hn : n < 0x8000000000000000) :
    Reads (.pair [k] (.integer n) :: ls)
      (k ++ ' ' :: '=' :: ' ' :: (Nat.toDigits 10 n ++ '\n' :: s)) := by
  refine h.pair hk (valueIn?_toDigits n s hn) ?_ Nat.toDigits_ne_nil
  intro c hc
  have hdigit : c.isDigit = true := Text.isDigit_of_mem_toDigits (List.mem_of_mem_head? hc)
  have hne (d : Char) (hd : d.isDigit = false) : c ≠ d := by
    rintro rfl
    rw [hdigit] at hd
    cases hd
  simp [isBlank, hne ' ' rfl, hne '\t' rfl]

end Reads

/-! ### Tables -/

theorem Table.put_of_not_mem {t : Table} {k : List Char} {v : Toml} (h : k ∉ t.map Prod.fst) :
    t.put k v = t ++ [(k, v)] := by
  induction t with
  | nil => rfl
  | cons e t ih =>
      obtain ⟨l, w⟩ := e
      simp only [List.map_cons, List.mem_cons, not_or] at h
      simp [Table.put, Ne.symm h.1, ih h.2]

theorem Table.get?_of_not_mem {t : Table} {k : List Char} (h : k ∉ t.map Prod.fst) :
    t.get? k = none := by
  refine List.lookup_eq_none_iff.2 fun e he => ?_
  refine bne_iff_ne.2 ?_
  rintro rfl
  exact h (List.mem_map_of_mem he)

/-- The lines of a table below its header, of which each has a key of its own. -/
theorem foldlM_pairs (key : List Char) (pairs : Table) :
    ∀ inner : Table, ((inner ++ pairs).map Prod.fst).Nodup →
      (pairs.map fun e => Line.pair [e.1] e.2).foldlM Draft.add?
        ⟨[(key, .table .headed inner)], [key]⟩ =
          some ⟨[(key, .table .headed (inner ++ pairs))], [key]⟩ := by
  induction pairs with
  | nil =>
      intro inner _
      rw [List.append_nil]
      rfl
  | cons e pairs ih =>
      intro inner hnodup
      have hnew : e.1 ∉ inner.map Prod.fst := by
        intro hmem
        rw [List.map_append, List.nodup_append] at hnodup
        exact hnodup.2.2 e.1 hmem e.1 (by simp) rfl
      have hadd : Draft.add? ⟨[(key, .table .headed inner)], [key]⟩ (.pair [e.1] e.2) =
          some ⟨[(key, .table .headed (inner ++ [e]))], [key]⟩ := by
        have hput := Table.put_of_not_mem (v := e.2) hnew
        simp [Draft.add?, Table.below, Table.get?, Table.extend, Table.define?,
          show List.lookup e.1 inner = none from Table.get?_of_not_mem hnew, hput, Table.put]
      rw [List.map_cons, List.foldlM_cons, hadd]
      have hrest := ih (inner ++ [e]) (by rwa [List.append_assoc, List.singleton_append])
      rwa [List.append_assoc, List.singleton_append] at hrest

theorem foldlM_table {key : List Char} {pairs : Table} (hkeys : (pairs.map Prod.fst).Nodup) :
    (Line.header [key] :: pairs.map fun e => Line.pair [e.1] e.2).foldlM Draft.add? ⟨[], []⟩ =
      some ⟨[(key, .table .headed pairs)], [key]⟩ := by
  have hheader : Draft.add? ⟨[], []⟩ (.header [key]) =
      some ⟨[(key, .table .headed [])], [key]⟩ := by
    simp [Draft.add?, Draft.open?, Table.below, Table.enter, Table.get?, Table.put]
  have hpairs := foldlM_pairs key pairs [] hkeys
  simp only [Option.bind_eq_bind, Option.bind_some, List.foldlM_cons, hheader, hpairs,
    List.nil_append]

/-- **A table is read back** from its header and its lines, if each line has a key of its own. -/
theorem Reads.parse? {key : List Char} {pairs : Table} {s : List Char}
    (h : Reads (.header [key] :: pairs.map fun e => Line.pair [e.1] e.2) s)
    (hmark : withoutMark s = s) (hkeys : (pairs.map Prod.fst).Nodup) :
    parse? s = some [(key, .table .headed pairs)] := by
  have hlines : lines? s = _ := h.linesUpTo? (s.length + 1) (Nat.lt_succ_self _)
  rw [Toml.parse?, hmark, hlines]
  simp only [Option.bind_eq_bind, Option.bind_some, foldlM_table hkeys]

/-! ### Documents with an integer of any size -/

section Lines

variable {k : List Char} (hk : IsBareKey k) (rest : List Char)

include hk

theorem IsBareKey.skipLines_append : skipLines (k ++ rest) = k ++ rest := by
  obtain ⟨c, cs, hcons, -, hblank, hother⟩ := hk.exists_cons
  rw [hcons, List.cons_append]
  exact skipLines_cons hblank (hother _ (by decide)) (hother _ (by decide)) (hother _ (by decide)) _

/-- A header. -/
theorem lineWith?_header (number? : List Char → Option (Int × List Char)) :
    lineWith? number? ('[' :: (k ++ ']' :: '\n' :: rest)) = some (.header [k], rest) := by
  have hpath : path? (k ++ ']' :: '\n' :: rest) = some ([k], ']' :: '\n' :: rest) :=
    path?_bare hk (by rw [Text.stops_cons]; decide) (by simp [skipBlanks, isBlank])
  obtain ⟨c, cs, hcons, -, -, hother⟩ := hk.exists_cons
  rw [lineWith?]
  · simp only [hpath, Option.bind_eq_bind, Option.bind_some, character?, if_true,
      Reads.endOfLine?_line]
  · rintro r hr
    rw [hcons, List.cons_append] at hr
    exact hother '[' (by decide) (List.cons.inj hr).1

/-- **A line with a key and an integer.** -/
theorem lineWith?_literal (n : Int) :
    lineWith? unbounded? (k ++ ' ' :: '=' :: ' ' :: ((toString n).toList ++ '\n' :: rest)) =
      some (.pair [k] (.integer n), rest) := by
  have hpath : path? (k ++ ' ' :: '=' :: ' ' :: ((toString n).toList ++ '\n' :: rest)) =
      some ([k], '=' :: ' ' :: ((toString n).toList ++ '\n' :: rest)) :=
    path?_bare hk (by rw [Text.stops_cons]; decide) (by simp [skipBlanks, isBlank])
  have hskip : skipBlanks (' ' :: ((toString n).toList ++ '\n' :: rest)) =
      (toString n).toList ++ '\n' :: rest := by
    obtain ⟨c, s, hs, hc⟩ := Text.exists_toString_cons n
    have hblank : Text.literalChars.any isBlank = false := by decide
    rw [hs]
    simp [skipBlanks, List.any_eq_false.1 hblank c hc, show isBlank ' ' = true from rfl]
  obtain ⟨c, cs, hcons, -, -, hother⟩ := hk.exists_cons
  rw [hcons, List.cons_append] at hpath ⊢
  rw [lineWith?]
  · simp only [hpath, Option.bind_eq_bind, Option.bind_some, character?, if_true, hskip,
      valueInWith?_literal, Reads.endOfLine?_line]
  · rintro r hr
    exact hother '[' (by decide) (List.cons.inj hr).1
  · rintro r hr
    exact hother '[' (by decide) (List.cons.inj hr).1

end Lines

theorem linesWith?_cons {number? : List Char → Option (Int × List Char)} {n : Nat} {s rest : List Char}
    {l : Line} {ls : List Line} (begins : skipLines s = s) (nonempty : s ≠ [])
    (line : lineWith? number? s = some (l, rest)) (tail : linesWith? number? n rest = some ls) :
    linesWith? number? (n + 1) s = some (l :: ls) := by
  obtain ⟨c, s, rfl⟩ := List.exists_cons_of_ne_nil nonempty
  rw [linesWith?, begins]
  simp [line, tail]

/-- **A document with a header and one integer**, however large the integer is. -/
theorem parseWith?_literal {table key : List Char} (htable : IsBareKey table) (hkey : IsBareKey key)
    (n : Int) :
    parseWith? unbounded? ('[' :: (table ++ ']' :: '\n' ::
      (key ++ ' ' :: '=' :: ' ' :: ((toString n).toList ++ ['\n'])))) =
        some [(table, .table .headed [(key, .integer n)])] := by
  have hlines (m : Nat) : linesWith? unbounded? (m + 3) ('[' :: (table ++ ']' :: '\n' ::
      (key ++ ' ' :: '=' :: ' ' :: ((toString n).toList ++ ['\n'])))) =
        some [.header [table], .pair [key] (.integer n)] := by
    have hpair : linesWith? unbounded? (m + 2)
        (key ++ ' ' :: '=' :: ' ' :: ((toString n).toList ++ ['\n'])) =
          some [.pair [key] (.integer n)] :=
      linesWith?_cons (hkey.skipLines_append _) (by simp) (lineWith?_literal hkey [] n) rfl
    exact linesWith?_cons (skipLines_cons rfl (by decide) (by decide) (by decide) _) (by simp)
      (lineWith?_header htable _ unbounded?) hpair
  obtain ⟨m, hm⟩ : ∃ m, ('[' :: (table ++ ']' :: '\n' ::
      (key ++ ' ' :: '=' :: ' ' :: ((toString n).toList ++ ['\n'])))).length + 1 = m + 3 := by
    refine Nat.exists_eq_add_of_le' ?_
    simp only [List.length_cons, List.length_append]
    omega
  have htables := @foldlM_table table [(key, .integer n)] (by simp)
  rw [List.map_cons, List.map_nil] at htables
  rw [parseWith?, withoutMark, if_neg (by decide), hm, hlines]
  simp only [Option.bind_eq_bind, Option.bind_some, htables]

end FirmwareCatalog.Toml
