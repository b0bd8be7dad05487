/-
**How strings and numbers are written.**

A string may say the same thing in many ways, because each of its characters may be escaped or not,
and so may a number, because the letter of its exponent has two cases and its sign may be left out.
Here are the rules for both, told without the reader, and what stands behind a string or a number
never matters to them.  To the reader it matters only where it goes on with a number.

The reader and the rules agree: what is written by the rules is read, and what is read is written by
them.

Main definitions:

* `Json.SpellsText` — strings, behind their opening quote;
* `Json.Numeral.IsLiteral`, `Json.SpellsUnsigned` — numbers, behind their sign.

Main results:

* `Json.readString_eq_iff` — **the reader and the rules agree on strings**;
* `Json.SpellsUnsigned.reads`, `Json.isSpelled_readNumber` — they agree on numbers.
-/
import FirmwareCatalog.Proofs.Json.Content
import FirmwareCatalog.Proofs.Json.Written

set_option relaxedAutoImplicit false
set_option autoImplicit false

namespace FirmwareCatalog.Json

open Text (Stops)

/-! ### Strings -/

/-- Four hexadecimal digits of either case, and their number. -/
inductive IsHex : List Char → Nat → Prop
  | mk {a b c d : Char} {w x y z : Nat} (ha : hexValue? a = some w) (hb : hexValue? b = some x)
      (hc : hexValue? c = some y) (hd : hexValue? d = some z) :
      IsHex [a, b, c, d] (w * 4096 + x * 256 + y * 16 + z)

/-- The first half of a surrogate pair. -/
def IsLeading (n : Nat) : Prop := 0xD800 ≤ n ∧ n ≤ 0xDBFF

/-- The second half of a surrogate pair. -/
def IsTrailing (n : Nat) : Prop := 0xDC00 ≤ n ∧ n ≤ 0xDFFF

/-- The rest of a string that does not begin with the second half of a surrogate pair. -/
inductive LacksTrailing : List Char → Prop
  | plain {c : Char} {s : List Char} (h : c ≠ '\\') : LacksTrailing (c :: s)
  | short {e : Char} {s : List Char} (h : e ≠ 'u') : LacksTrailing ('\\' :: e :: s)
  | unicode {ds s : List Char} {m : Nat} (h : IsHex ds m) (hm : ¬ IsTrailing m) :
      LacksTrailing ('\\' :: 'u' :: (ds ++ s))

/-- `SpellsText s o rest`: behind an opening quote, `s` begins with the string `o` and its closing
quote, and `rest` stands behind it.  A string with half of a surrogate pair in it has no text. -/
inductive SpellsText : List Char → Option (List Char) → List Char → Prop
  | quote (rest : List Char) : SpellsText ('"' :: rest) (some []) rest
  | plain {c : Char} {s rest : List Char} {o : Option (List Char)} (quote : c ≠ '"')
      (slash : c ≠ '\\') (visible : 0x20 ≤ c.toNat) (tail : SpellsText s o rest) :
      SpellsText (c :: s) (o.map (c :: ·)) rest
  | short {e d : Char} {s rest : List Char} {o : Option (List Char)} (code : shortEscape? e = some d)
      (tail : SpellsText s o rest) : SpellsText ('\\' :: e :: s) (o.map (d :: ·)) rest
  | unicode {ds s rest : List Char} {n : Nat} {o : Option (List Char)} (code : IsHex ds n)
      (whole : ¬ IsLeading n ∧ ¬ IsTrailing n) (tail : SpellsText s o rest) :
      SpellsText ('\\' :: 'u' :: (ds ++ s)) (o.map (Char.ofNat n :: ·)) rest
  | pair {ds es s rest : List Char} {n m : Nat} {o : Option (List Char)} (code : IsHex ds n)
      (leading : IsLeading n) (next : IsHex es m) (trailing : IsTrailing m)
      (tail : SpellsText s o rest) :
      SpellsText ('\\' :: 'u' :: (ds ++ '\\' :: 'u' :: (es ++ s)))
        (o.map (Char.ofNat (0x10000 + (n - 0xD800) * 0x400 + (m - 0xDC00)) :: ·)) rest
  | half {ds s rest : List Char} {n : Nat} {o : Option (List Char)} (code : IsHex ds n)
      (alone : IsTrailing n ∨ IsLeading n ∧ LacksTrailing s) (tail : SpellsText s o rest) :
      SpellsText ('\\' :: 'u' :: (ds ++ s)) none rest

section Strings

variable {s rest ds : List Char} {n m : Nat} {o : Option (List Char)}

theorem LacksTrailing.append (h : LacksTrailing s) (t : List Char) : LacksTrailing (s ++ t) := by
  cases h with
  | plain h => exact .plain h
  | short h => exact .short h
  | unicode h hm =>
      rw [List.cons_append, List.cons_append, List.append_assoc]
      exact .unicode h hm

/-- What stands behind a string does not matter to it. -/
theorem SpellsText.append (h : SpellsText s o rest) (t : List Char) :
    SpellsText (s ++ t) o (rest ++ t) := by
  induction h with
  | quote rest => exact .quote (rest ++ t)
  | plain quote slash visible _ ih => exact .plain quote slash visible ih
  | short code _ ih => exact .short code ih
  | unicode code whole _ ih =>
      rw [List.cons_append, List.cons_append, List.append_assoc]
      exact .unicode code whole ih
  | pair code leading next trailing _ ih =>
      simp only [List.cons_append, List.append_assoc]
      exact .pair code leading next trailing ih
  | half code alone _ ih =>
      rw [List.cons_append, List.cons_append, List.append_assoc]
      exact .half code (alone.imp_right fun h => ⟨h.1, h.2.append t⟩) ih

theorem SpellsText.length_lt (h : SpellsText s o rest) : rest.length < s.length := by
  induction h with
  | quote rest => simp
  | plain _ _ _ _ ih => simp only [List.length_cons]; omega
  | short _ _ ih => simp only [List.length_cons]; omega
  | unicode _ _ _ ih => simp only [List.length_cons, List.length_append]; omega
  | pair _ _ _ _ _ ih => simp only [List.length_cons, List.length_append]; omega
  | half _ _ _ ih => simp only [List.length_cons, List.length_append]; omega

/-! #### Strings are read by the rules -/

/-- A hexadecimal digit takes one byte. -/
theorem utf8Size_of_hexValue? {c : Char} (h : hexValue? c = some n) : c.utf8Size = 1 := by
  have hle : c ≤ 'f' := by
    unfold hexValue? at h
    split at h
    · rename_i hc
      exact Char.le_trans hc.2 (by decide)
    split at h
    · rename_i hc
      exact hc.2
    split at h
    · rename_i hc
      exact Char.le_trans hc.2 (by decide)
    · cases h
  have hval : c.val ≤ 0x7F := UInt32.le_trans hle (by decide)
  simp [Char.utf8Size, hval]

theorem IsHex.length (h : IsHex ds n) : ds.length = 4 := by
  cases h
  rfl

theorem IsHex.hexEscape_eq (h : IsHex ds n) (t : List Char) : hexEscape (ds ++ t) = .ok n := by
  cases h with
  | @mk a b c d w x y z ha hb hc hd =>
      have hsize : Utf8.size ((a :: b :: c :: d :: t).take 4) = 4 := by
        simp [Utf8.size, utf8Size_of_hexValue? ha, utf8Size_of_hexValue? hb,
          utf8Size_of_hexValue? hc, utf8Size_of_hexValue? hd]
      simp only [List.cons_append, List.nil_append, hexEscape, hsize, ha, hb, hc, hd]
      rfl

/-- Nothing else is read as a hexadecimal escape. -/
theorem isHex_of_hexEscape (h : hexEscape s = .ok n) : ∃ ds t, s = ds ++ t ∧ IsHex ds n := by
  unfold hexEscape at h
  split at h
  · cases h
  split at h
  · rename_i a b c d t _
    split at h
    · rename_i w x y z ha hb hc hd
      cases h
      exact ⟨[a, b, c, d], t, rfl, .mk ha hb hc hd⟩
    · cases h
  · cases h

theorem unicodeEscape_whole (h : IsHex ds n) (hn : ¬ IsLeading n ∧ ¬ IsTrailing n) (t : List Char) :
    unicodeEscape (ds ++ t) = .ok (Char.ofNat n, 5) := by
  have hsecond : ¬ (0xDC00 ≤ n ∧ n ≤ 0xDFFF) := hn.2
  have hplain : n < 0xD800 ∨ 0xDBFF < n := by
    unfold IsLeading at hn
    omega
  simp only [unicodeEscape, h.hexEscape_eq, bind, Except.bind, if_neg hsecond, if_pos hplain]

/-- Both halves of a pair are read as one character. -/
theorem unicodeEscape_pair {es : List Char} (h : IsHex ds n) (hn : IsLeading n) (h' : IsHex es m)
    (hm : IsTrailing m) (t : List Char) :
    unicodeEscape (ds ++ '\\' :: 'u' :: (es ++ t)) =
      .ok (Char.ofNat (0x10000 + (n - 0xD800) * 0x400 + (m - 0xDC00)), 11) := by
  obtain ⟨hlow, hhigh⟩ := hn
  have hsecond : ¬ (0xDC00 ≤ n ∧ n ≤ 0xDFFF) := by omega
  have hplain : ¬ (n < 0xD800 ∨ 0xDBFF < n) := by omega
  have hpaired : ¬ (m < 0xDC00 ∨ 0xDFFF < m) := by
    obtain ⟨hmlow, hmhigh⟩ := hm
    omega
  have hdrop : (ds ++ '\\' :: 'u' :: (es ++ t)).drop 4 = '\\' :: 'u' :: (es ++ t) := by
    rw [← h.length, List.drop_left]
  simp only [unicodeEscape, h.hexEscape_eq, bind, Except.bind, hdrop, if_neg hsecond, if_neg hplain,
    h'.hexEscape_eq, if_neg hpaired]

/-- Half of a pair alone is no character. -/
theorem unicodeEscape_half (h : IsHex ds n)
    (halone : IsTrailing n ∨ IsLeading n ∧ LacksTrailing s) :
    ∃ fault, unicodeEscape (ds ++ s) = .error fault := by
  have hdrop : (ds ++ s).drop 4 = s := by rw [← h.length, List.drop_left]
  rcases halone with hn | ⟨⟨hlow, hhigh⟩, hlacks⟩
  · exact ⟨⟨.loneSurrogate, .before s⟩, by
      simp only [unicodeEscape, h.hexEscape_eq, bind, Except.bind, hdrop]
      exact if_pos hn⟩
  -- a first half is refused for what stands behind it, in three different ways
  have hsecond : ¬ (0xDC00 ≤ n ∧ n ≤ 0xDFFF) := by omega
  have hplain : ¬ (n < 0xD800 ∨ 0xDBFF < n) := by omega
  cases hlacks with
  | @plain c s hc =>
      refine ⟨⟨.hexEscapeEnd, .onto (c :: s)⟩, ?_⟩
      simp only [unicodeEscape, h.hexEscape_eq, bind, Except.bind, hdrop, if_neg hsecond,
        if_neg hplain]
      split <;> simp_all
  | @short e s he =>
      refine ⟨⟨.hexEscapeEnd, .onto (e :: s)⟩, ?_⟩
      simp only [unicodeEscape, h.hexEscape_eq, bind, Except.bind, hdrop, if_neg hsecond,
        if_neg hplain]
      split <;> simp_all
  | @unicode es s m h' hm =>
      have hunpaired : m < 0xDC00 ∨ 0xDFFF < m := by
        unfold IsTrailing at hm
        omega
      refine ⟨⟨.loneSurrogate, .before ((es ++ s).drop 4)⟩, ?_⟩
      simp only [unicodeEscape, h.hexEscape_eq, bind, Except.bind, hdrop, if_neg hsecond,
        if_neg hplain, h'.hexEscape_eq, if_pos hunpaired]

theorem IsHex.skipString_eq (h : IsHex ds n) (t : List Char) :
    skipString 0 ('\\' :: 'u' :: (ds ++ t)) = skipString 0 t := by
  have happend := skipString_append ('u' :: ds) t
  rw [List.length_cons, h.length] at happend
  have hlength : escapeLength ('u' :: (ds ++ t)) = .ok 5 := by
    rw [escapeLength, if_pos rfl, h.hexEscape_eq]
    rfl
  rw [skipString, if_neg (by decide), if_pos rfl, hlength]
  exact happend

theorem textOf_escape {code : List Char} {d : Char} (h : escape (code ++ s) = .ok (d, code.length)) :
    textOf 0 ('\\' :: (code ++ s)) = (textOf 0 s).map (d :: ·) := by
  rw [textOf, if_neg (by decide), if_pos rfl, h]
  dsimp only
  rw [textOf_append]

/-- **A string that is written by the rules is read**: its end is found, and its text is read if it
has one. -/
theorem SpellsText.reads (h : SpellsText s o rest) :
    skipString 0 s = .ok rest ∧ (textOf 0 s).toOption = o := by
  have hmap {d : Char} {x : Except Fault (List Char)} {o : Option (List Char)}
      (hx : x.toOption = o) : (x.map (d :: ·)).toOption = o.map (d :: ·) := by
    cases x <;> subst hx <;> rfl
  induction h with
  | quote rest => exact ⟨rfl, rfl⟩
  | @plain c s rest o quote slash visible _ ih =>
      -- a character that stands for itself is passed over alone
      have hvisible : ¬ c.toNat < 0x20 := by omega
      rw [skipString, textOf, if_neg quote, if_neg quote, if_neg slash, if_neg slash,
        if_neg hvisible, if_neg hvisible]
      exact ⟨ih.1, hmap ih.2⟩
  | @short e d s rest o code _ ih =>
      have hne : e ≠ 'u' := by
        rintro rfl
        cases code
      have hlength : escapeLength (e :: s) = .ok 1 := by
        rw [escapeLength, if_neg hne, code]
        rfl
      have hescape : escape ([e] ++ s) = .ok (d, [e].length) := by
        rw [List.singleton_append, escape, if_neg hne, code]
        rfl
      have htext := textOf_escape hescape
      rw [List.singleton_append] at htext
      rw [htext, skipString, if_neg (by decide), if_pos rfl, hlength]
      exact ⟨ih.1, hmap ih.2⟩
  | @unicode ds s rest n o code whole _ ih =>
      have hescape : escape (('u' :: ds) ++ s) = .ok (Char.ofNat n, ('u' :: ds).length) := by
        rw [List.cons_append, escape, if_pos rfl, unicodeEscape_whole code whole, List.length_cons,
          code.length]
      rw [code.skipString_eq, ← List.cons_append, textOf_escape hescape]
      exact ⟨ih.1, hmap ih.2⟩
  | @pair ds es s rest n m o code leading next trailing _ ih =>
      -- the end is found past one code after the other, but the text has one character for both
      have hescape : escape ('u' :: (ds ++ '\\' :: 'u' :: es) ++ s) =
          .ok (Char.ofNat (0x10000 + (n - 0xD800) * 0x400 + (m - 0xDC00)),
            ('u' :: (ds ++ '\\' :: 'u' :: es)).length) := by
        rw [List.cons_append, List.append_assoc, List.cons_append, List.cons_append, escape,
          if_pos rfl, unicodeEscape_pair code leading next trailing]
        simp [code.length, next.length]
      have htext := textOf_escape hescape
      simp only [List.cons_append, List.append_assoc] at htext
      rw [htext, code.skipString_eq, next.skipString_eq]
      exact ⟨ih.1, hmap ih.2⟩
  | @half ds s rest n o code alone _ ih =>
      -- the end is found all the same, but there is no text
      obtain ⟨fault, hfault⟩ := unicodeEscape_half code alone
      rw [code.skipString_eq, textOf, if_neg (by decide), if_pos rfl, escape, if_pos rfl, hfault]
      exact ⟨ih.1, rfl⟩

theorem not_isTrailing_of_isLeading (h : IsLeading n) : ¬ IsTrailing n := by
  unfold IsLeading IsTrailing at *
  omega

/-- Behind the first half of a pair stands the second half, or the string lacks it. -/
theorem SpellsText.trailing_or_lacks (h : SpellsText s o rest) :
    (∃ es t m o', s = '\\' :: 'u' :: (es ++ t) ∧ IsHex es m ∧ IsTrailing m ∧
      SpellsText t o' rest) ∨ LacksTrailing s := by
  cases h with
  | quote rest => exact Or.inr (.plain (by decide))
  | plain quote slash visible tail => exact Or.inr (.plain slash)
  | short code tail =>
      refine Or.inr (.short ?_)
      rintro rfl
      cases code
  | unicode code whole tail => exact Or.inr (.unicode code whole.2)
  | pair code leading next trailing tail =>
      exact Or.inr (.unicode code (not_isTrailing_of_isLeading leading))
  | half code alone tail =>
      -- what is alone here may be the second half of a pair whose first half stands before it
      rcases alone with htrailing | ⟨hleading, -⟩
      · exact Or.inl ⟨_, _, _, _, rfl, code, htrailing, tail⟩
      · exact Or.inr (.unicode code (not_isTrailing_of_isLeading hleading))

theorem SpellsText.exists_cons_hex (h : SpellsText s o rest) (hds : IsHex ds n) :
    ∃ o', SpellsText ('\\' :: 'u' :: (ds ++ s)) o' rest := by
  by_cases htrailing : IsTrailing n
  · exact ⟨_, .half hds (Or.inl htrailing) h⟩
  by_cases hleading : IsLeading n
  · rcases h.trailing_or_lacks with ⟨es, t, m, o', rfl, hes, hm, htail⟩ | hlacks
    · exact ⟨_, .pair hds hleading hes hm htail⟩
    · exact ⟨_, .half hds (Or.inr ⟨hleading, hlacks⟩) h⟩
  · exact ⟨_, .unicode hds ⟨hleading, htrailing⟩ h⟩

/-- What is passed over as an escape is written by the rules. -/
theorem escapeLength_cases {k : Nat} (h : escapeLength s = .ok k) :
    (∃ ds t n, s = 'u' :: (ds ++ t) ∧ IsHex ds n ∧ k = 5) ∨
      ∃ e d t, s = e :: t ∧ shortEscape? e = some d ∧ k = 1 := by
  cases s with
  | nil => cases h
  | cons e t =>
      rw [escapeLength] at h
      split at h
      · rename_i hu
        subst hu
        obtain ⟨n, hn, rfl⟩ := map_eq_ok_iff.1 h
        obtain ⟨ds, t, rfl, hds⟩ := isHex_of_hexEscape hn
        exact Or.inl ⟨ds, t, n, rfl, hds, rfl⟩
      split at h
      · rename_i hshort
        obtain ⟨d, hd⟩ := Option.isSome_iff_exists.1 hshort
        cases h
        exact Or.inr ⟨e, d, t, rfl, hd, rfl⟩
      · cases h

/-- **A string whose end is found is written by the rules**, by induction on its length, because an
escape is passed over as a whole. -/
theorem spellsText_of_skipString (h : skipString 0 s = .ok rest) : ∃ o, SpellsText s o rest := by
  induction hlength : s.length using Nat.strongRecOn generalizing s with
  | ind n ih =>
      subst hlength
      cases s with
      | nil => cases h
      | cons c s =>
          rw [skipString] at h
          split at h
          · rename_i hquote
            subst hquote
            cases h
            exact ⟨_, .quote _⟩
          rename_i hquote
          split at h
          · rename_i hslash
            subst hslash
            split at h
            · rename_i k hk
              rcases escapeLength_cases hk with ⟨ds, t, n, rfl, hds, rfl⟩ | ⟨e, d, t, rfl, hd, rfl⟩
              · -- the search for the end goes on behind the whole code
                have happend := skipString_append ('u' :: ds) t
                rw [List.length_cons, hds.length, List.cons_append] at happend
                have hlt : t.length < ('\\' :: 'u' :: (ds ++ t)).length := by
                  simp only [List.length_cons, List.length_append]
                  omega
                obtain ⟨o, ho⟩ := ih t.length hlt (happend.symm.trans h) rfl
                exact ho.exists_cons_hex hds
              · have hlt : t.length < ('\\' :: e :: t).length := by
                  simp only [List.length_cons]
                  omega
                obtain ⟨o, ho⟩ := ih t.length hlt h rfl
                exact ⟨_, .short hd ho⟩
            · cases h
          rename_i hslash
          split at h
          · cases h
          · rename_i hvisible
            obtain ⟨o, ho⟩ := ih s.length (by simp) h rfl
            exact ⟨_, .plain hquote hslash (by omega) ho⟩

/-- The reader and the rules agree on strings. -/
theorem readString_eq_iff {k : Option String} :
    ((readString s).text? = k ∧ (readString s).after = .ok rest) ↔
      ∃ o, SpellsText s o rest ∧ k = o.map String.ofList := by
  have htext {o : Option (List Char)} (h : SpellsText s o rest) :
      (readString s).text? = o.map String.ofList := by
    obtain ⟨hskip, htext⟩ := h.reads
    rw [readString, StringToken.text?, hskip]
    cases hread : textOf 0 s <;> rw [hread] at htext <;> subst htext <;> rfl
  constructor
  · rintro ⟨rfl, hafter⟩
    obtain ⟨o, ho⟩ := spellsText_of_skipString hafter
    exact ⟨o, ho, htext ho⟩
  · rintro ⟨o, ho, rfl⟩
    exact ⟨htext ho, ho.reads.1⟩

end Strings

/-! ### Numbers -/

/-- At least one digit, and nothing else. -/
def IsDigits (ds : List Char) : Prop := ds ≠ [] ∧ ∀ d ∈ ds, isDigit d = true

/-- A literal as numbers are written: no digit is missing, and none is a leading zero. -/
structure Numeral.IsLiteral (l : Numeral) : Prop where
  whole : IsDigits l.whole
  zero : l.whole.head? = some '0' → l.whole = ['0']
  fraction : ∀ ds ∈ l.fraction, IsDigits ds
  exponent : ∀ e ∈ l.exponent, IsDigits e.digits

def Numeral.writeFraction : Option (List Char) → List Char
  | none => []
  | some ds => '.' :: ds

/-- The exponent of a literal may begin with a letter of either case, and one that is not negative
may have a sign. -/
inductive SpellsExponent : Option Exponent → List Char → Prop
  | none : SpellsExponent none []
  | positive {e : Exponent} {mark : Char} {sign : List Char} (letter : mark = 'e' ∨ mark = 'E')
      (up : e.negative = false) (plus : sign = [] ∨ sign = ['+']) :
      SpellsExponent (some e) (mark :: (sign ++ e.digits))
  | negative {e : Exponent} {mark : Char} (letter : mark = 'e' ∨ mark = 'E')
      (down : e.negative = true) : SpellsExponent (some e) (mark :: '-' :: e.digits)

/-- `SpellsUnsigned s l rest`: `s` begins with the literal without its sign, and `rest` stands
behind it. -/
inductive SpellsUnsigned : List Char → Numeral → List Char → Prop
  | mk {l : Numeral} {x rest : List Char} (literal : l.IsLiteral)
      (exponent : SpellsExponent l.exponent x) :
      SpellsUnsigned (l.whole ++ (Numeral.writeFraction l.fraction ++ (x ++ rest))) l rest

/-- A value that is the given literal, with the given text behind it. -/
def IsLiteralOf (l : Numeral) (rest : List Char) (node : Node) : Prop :=
  ∃ l', node = .number l' ∧ l'.bare = l.bare ∧ l'.after = rest

section Numbers

variable {l : Numeral} {s rest x : List Char}

theorem SpellsUnsigned.append (h : SpellsUnsigned s l rest) (t : List Char) :
    SpellsUnsigned (s ++ t) l (rest ++ t) := by
  cases h with
  | mk literal exponent =>
      simp only [List.append_assoc]
      exact .mk literal exponent

theorem SpellsUnsigned.exists_digit (h : SpellsUnsigned s l rest) :
    ∃ d t, s = d :: t ∧ isDigit d = true ∧ rest.length ≤ t.length := by
  cases h with
  | mk literal exponent =>
      obtain ⟨d, ds, hds⟩ := List.exists_cons_of_ne_nil literal.whole.1
      refine ⟨d, _, by rw [hds, List.cons_append], literal.whole.2 d (hds ▸ List.mem_cons_self), ?_⟩
      simp only [List.length_append]
      omega

/-! #### Numbers are read by the rules -/

/-- The digits of an exponent are read as far as they go. -/
theorem readExponent_digits {ds : List Char} (h : IsDigits ds) (hrest : Stops isDigit rest) :
    readExponent (ds ++ rest) = .ok (⟨false, ds, ds ++ rest⟩, rest) := by
  obtain ⟨hne, hall⟩ := h
  obtain ⟨d, ds', rfl⟩ := List.exists_cons_of_ne_nil hne
  have hd := hall d List.mem_cons_self
  unfold readExponent
  split
  rename_i negative' rest' hsign
  split at hsign
  · rename_i heq
    obtain rfl := (List.cons.inj heq).1
    exact absurd hd (by decide)
  · rename_i heq
    obtain rfl := (List.cons.inj heq).1
    exact absurd hd (by decide)
  · cases hsign
    rw [Text.takeWhile_append_stop hall hrest, Text.dropWhile_append_stop hall hrest]
    rfl

/-- An exponent is read behind its letter. -/
theorem SpellsExponent.readExponent {e : Exponent} {mark : Char} (h : SpellsExponent (some e) (mark :: x))
    (hdigits : IsDigits e.digits) (hrest : Stops isDigit rest) :
    ∃ start, Json.readExponent (x ++ rest) = .ok (⟨e.negative, e.digits, start⟩, rest) := by
  have htake := Text.takeWhile_append_stop hdigits.2 hrest
  have hdrop := Text.dropWhile_append_stop hdigits.2 hrest
  cases h with
  | positive letter up plus =>
      rcases plus with rfl | rfl
      · rw [List.nil_append, up, readExponent_digits hdigits hrest]
        exact ⟨_, rfl⟩
      · rw [List.cons_append, List.nil_append, List.cons_append, Json.readExponent]
        simp [htake, hdrop, hdigits.1, up]
  | negative letter down =>
      rw [List.cons_append, Json.readExponent]
      simp [htake, hdrop, hdigits.1, down]

/-- Nothing that goes on with a number is left behind an exponent. -/
theorem readScale_spelled (hx : SpellsExponent l.exponent x) (hl : l.IsLiteral)
    (hrest : Stops goesOn rest) :
    IsLiteralOf l rest (readScale l.negative l.whole l.fraction (x ++ rest)) := by
  obtain ⟨negative, whole, fraction, exponent, after⟩ := l
  cases exponent with
  | none =>
      cases hx
      refine ⟨⟨negative, whole, fraction, none, rest⟩, ?_, rfl, rfl⟩
      rw [List.nil_append]
      unfold readScale
      split
      · exact absurd (hrest 'e' rfl) (by decide)
      · exact absurd (hrest 'E' rfl) (by decide)
      · rfl
  | some e =>
      have hletter : ∃ mark y, x = mark :: y ∧ (mark = 'e' ∨ mark = 'E') := by
        cases hx with
        | positive letter up plus => exact ⟨_, _, rfl, letter⟩
        | negative letter down => exact ⟨_, _, rfl, letter⟩
      obtain ⟨mark, y, rfl, hmark⟩ := hletter
      obtain ⟨start, hread⟩ := hx.readExponent (hl.exponent e rfl) (Stops.digits hrest)
      refine ⟨⟨negative, whole, fraction, some ⟨e.negative, e.digits, start⟩, rest⟩, ?_, rfl, rfl⟩
      rcases hmark with rfl | rfl <;>
        · rw [List.cons_append, readScale]
          dsimp only
          rw [hread]

/-- Neither an exponent nor what stands behind it goes on with a whole part or a fraction. -/
theorem SpellsExponent.stops {o : Option Exponent} (hx : SpellsExponent o x)
    (hrest : Stops goesOn rest) : Stops (fun c => isDigit c || c == '.') (x ++ rest) := by
  cases hx with
  | none =>
      intro c hc
      have hgoes := hrest c hc
      simp only [goesOn, Bool.or_eq_false_iff] at hgoes
      simp [hgoes.1.1]
  | positive letter up plus =>
      rcases letter with rfl | rfl <;> exact (Text.stops_cons _ _ _).2 (by decide)
  | negative letter down =>
      rcases letter with rfl | rfl <;> exact (Text.stops_cons _ _ _).2 (by decide)

/-- The rest of a literal behind its whole part is read. -/
theorem readFraction_spelled (hx : SpellsExponent l.exponent x) (hl : l.IsLiteral)
    (hrest : Stops goesOn rest) :
    IsLiteralOf l rest (readFraction l.negative l.whole
      (Numeral.writeFraction l.fraction ++ (x ++ rest))) := by
  have hscale := readScale_spelled hx hl hrest
  have hstops := hx.stops hrest
  cases hfraction : l.fraction with
  | none =>
      rw [hfraction] at hscale
      rw [Numeral.writeFraction, List.nil_append]
      unfold readFraction
      split
      · rename_i heq
        exact absurd (hstops '.' (by rw [heq]; rfl)) (by decide)
      · exact hscale
  | some ds =>
      obtain ⟨hne, hall⟩ := hl.fraction ds hfraction
      have hdigits : Stops isDigit (x ++ rest) := fun c hc =>
        (Bool.or_eq_false_iff.1 (hstops c hc)).1
      rw [hfraction] at hscale
      rw [Numeral.writeFraction, List.cons_append, readFraction]
      simp only [Text.takeWhile_append_stop hall hdigits, Text.dropWhile_append_stop hall hdigits,
        List.isEmpty_eq_false_iff.2 hne, Bool.false_eq_true, if_false]
      exact hscale

/-- **A literal that is written by the rules is read**, if what stands behind it does not go on with
it. -/
theorem SpellsUnsigned.reads (h : SpellsUnsigned s l rest) (hrest : Stops goesOn rest) :
    IsLiteralOf l rest (readNumber l.negative s) := by
  cases h with
  | @mk _ x _ literal exponent =>
      have hfraction := readFraction_spelled exponent literal hrest
      have hdigits : Stops isDigit (Numeral.writeFraction l.fraction ++ (x ++ rest)) := by
        cases l.fraction with
        | none => exact fun c hc => (Bool.or_eq_false_iff.1 (exponent.stops hrest c hc)).1
        | some ds => exact (Text.stops_cons _ _ _).2 (by decide)
      obtain ⟨hne, hall⟩ := literal.whole
      generalize Numeral.writeFraction l.fraction ++ (x ++ rest) = t at hfraction hdigits ⊢
      -- the reader takes a leading zero for the whole part, and any other digit for the first of a run
      by_cases hzero : l.whole = ['0']
      · rw [hzero] at hfraction ⊢
        cases t with
        | nil => exact hfraction
        | cons c t =>
            have hc := (Text.stops_cons isDigit c t).1 hdigits
            simp only [List.singleton_append, readNumber, hc, Bool.false_eq_true, if_false]
            exact hfraction
      · have htake := Text.takeWhile_append_stop hall hdigits
        have hdrop := Text.dropWhile_append_stop hall hdigits
        unfold readNumber
        split
        · rename_i r heq
          refine absurd (literal.zero ?_) hzero
          obtain ⟨d, ds, hds⟩ := List.exists_cons_of_ne_nil hne
          rw [hds, List.cons_append] at heq
          rw [hds, (List.cons.inj heq).1]
          rfl
        · simp only [htake, hdrop, List.isEmpty_eq_false_iff.2 hne, Bool.false_eq_true, if_false]
          exact hfraction

/-! #### What is read as a number is written by the rules -/

theorem isDigits_takeWhile (h : ¬ (s.takeWhile isDigit).isEmpty = true) :
    IsDigits (s.takeWhile isDigit) :=
  ⟨fun hnil => h (List.isEmpty_iff.2 hnil), List.all_eq_true.1 List.all_takeWhile⟩

/-- What is read as an exponent is written by the rules. -/
theorem spellsExponent_of_readExponent {e : Exponent} {mark : Char} {after : List Char}
    (hmark : mark = 'e' ∨ mark = 'E') (h : readExponent s = .ok (e, after)) :
    IsDigits e.digits ∧ ∃ x, SpellsExponent (some e) x ∧ mark :: s = x ++ after := by
  have hdigits {negative : Bool} {t : List Char}
      (h : (if (t.takeWhile isDigit).isEmpty then Except.error t
        else .ok (⟨negative, t.takeWhile isDigit, t⟩, t.dropWhile isDigit)) = .ok (e, after)) :
      IsDigits e.digits ∧ e.negative = negative ∧ t = e.digits ++ after := by
    split at h
    · cases h
    · rename_i hsome
      cases h
      exact ⟨isDigits_takeWhile hsome, rfl, (List.takeWhile_append_dropWhile).symm⟩
  unfold readExponent at h
  split at h
  rename_i negative t hsign
  obtain ⟨he, hneg, rfl⟩ := hdigits h
  refine ⟨he, ?_⟩
  split at hsign
  · cases hsign
    exact ⟨_, .positive hmark hneg (Or.inr rfl), rfl⟩
  · cases hsign
    exact ⟨_, .negative hmark hneg, rfl⟩
  · cases hsign
    exact ⟨_, .positive hmark hneg (Or.inl rfl), rfl⟩

/-- A literal of the sign is read from the text as the content, with the given text behind it. -/
def IsSpelledNumber (negative : Bool) (s : List Char) (c : Content) (rest : List Char) : Prop :=
  ∃ l : Numeral, c = .number l.bare ∧ l.negative = negative ∧ SpellsUnsigned s l rest

/-- The rest of a literal is written by the rules, if what stands before it is the start of one. -/
theorem isSpelled_readScale {negative : Bool} {whole : List Char} {fraction : Option (List Char)}
    {c : Content} (hwhole : IsDigits whole) (hzero : whole.head? = some '0' → whole = ['0'])
    (hfraction : ∀ ds ∈ fraction, IsDigits ds)
    (h : (readScale negative whole fraction s).Ends c rest) :
    IsSpelledNumber negative (whole ++ (Numeral.writeFraction fraction ++ s)) c rest := by
  -- the two letters of an exponent differ in nothing else
  have hexponent {mark : Char} {r : List Char} (hmark : mark = 'e' ∨ mark = 'E')
      (hr : (readScale negative whole fraction (mark :: r)).Ends c rest) :
      IsSpelledNumber negative (whole ++ (Numeral.writeFraction fraction ++ mark :: r)) c rest := by
    cases hread : readExponent r with
    | error after =>
        have hnode : readScale negative whole fraction (mark :: r) = .badNumber after := by
          rcases hmark with rfl | rfl <;> simp only [readScale, hread]
        rw [hnode] at hr
        cases hr.1
    | ok result =>
        obtain ⟨e, after⟩ := result
        have hnode : readScale negative whole fraction (mark :: r) =
            .number ⟨negative, whole, fraction, some e, after⟩ := by
          rcases hmark with rfl | rfl <;> simp only [readScale, hread]
        rw [hnode] at hr
        obtain ⟨hcontent, hafter⟩ := hr
        cases hcontent
        cases hafter
        obtain ⟨he, x, hx, hs⟩ := spellsExponent_of_readExponent hmark hread
        have hliteral : Numeral.IsLiteral ⟨negative, whole, fraction, some e, after⟩ :=
          ⟨hwhole, hzero, hfraction, by simpa using he⟩
        rw [hs]
        exact ⟨_, rfl, rfl, .mk hliteral hx⟩
  unfold readScale at h
  split at h
  · exact hexponent (Or.inl rfl) h
  · exact hexponent (Or.inr rfl) h
  · obtain ⟨hcontent, hafter⟩ := h
    cases hcontent
    cases hafter
    have hliteral : Numeral.IsLiteral ⟨negative, whole, fraction, none, s⟩ :=
      ⟨hwhole, hzero, hfraction, by simp⟩
    exact ⟨_, rfl, rfl, .mk hliteral .none⟩

theorem isSpelled_readFraction {negative : Bool} {whole : List Char} {c : Content}
    (hwhole : IsDigits whole) (hzero : whole.head? = some '0' → whole = ['0'])
    (h : (readFraction negative whole s).Ends c rest) :
    IsSpelledNumber negative (whole ++ s) c rest := by
  unfold readFraction at h
  split at h
  · rename_i r
    dsimp only at h
    split at h
    · cases h.1
    · rename_i hsome
      have hscale := isSpelled_readScale hwhole hzero (fun ds hds => by
        cases hds
        exact isDigits_takeWhile hsome) h
      rwa [Numeral.writeFraction, List.cons_append, List.takeWhile_append_dropWhile] at hscale
  · exact isSpelled_readScale hwhole hzero (by simp) h

/-- **What is read as a number is written by the rules.** -/
theorem isSpelled_readNumber {negative : Bool} {c : Content}
    (h : (readNumber negative s).Ends c rest) : IsSpelledNumber negative s c rest := by
  have hzero : IsDigits ['0'] := by
    refine ⟨by simp, fun d hd => ?_⟩
    obtain rfl := List.mem_singleton.1 hd
    decide
  unfold readNumber at h
  split at h
  · split at h
    · split at h
      · cases h.1
      · exact isSpelled_readFraction hzero (fun _ => rfl) h
    · exact isSpelled_readFraction hzero (fun _ => rfl) h
  · -- a literal that goes on behind its first digit does not begin with a zero
    rename_i hnotzero
    dsimp only at h
    split at h
    · cases h.1
    · rename_i hsome
      have hfraction := isSpelled_readFraction (isDigits_takeWhile hsome) (fun hhead => ?_) h
      · rwa [List.takeWhile_append_dropWhile] at hfraction
      · cases s with
        | nil => simp at hsome
        | cons d s =>
            by_cases hd : isDigit d = true
            · rw [List.takeWhile_cons_of_pos hd] at hhead
              obtain rfl : d = '0' := Option.some.inj hhead
              exact absurd rfl (hnotzero s)
            · simp [List.takeWhile_cons_of_neg hd] at hsome

end Numbers

end FirmwareCatalog.Json
