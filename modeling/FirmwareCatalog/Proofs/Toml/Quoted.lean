/-
**Written texts are read back.**

A text is written in one of four ways, and each of them has a reader of its own.  Between double
quotes every character is written as itself or as an escape, and is read back as that character.
Between three quotes a run of quotes stands for itself as long as it is shorter than three, so a
reader may meet such a run inside the text, or at its end, where it takes the run together with the
closing quotes.  What the way is chosen for is that the reader of that way can tell the two apart.

Main results:

* `Toml.basic?_escaped`, `Toml.longBasic?_escaped` — texts with escapes;
* `Toml.literal?_append`, `Toml.longLiteral?_append` — texts without;
* `Toml.string?_quote` — **a written text is read back**, with anything behind it but a quote.
-/
import FirmwareCatalog.Proofs.Text.Digits
import FirmwareCatalog.Toml.Lexeme
import FirmwareCatalog.Toml.Writer

set_option relaxedAutoImplicit false
set_option autoImplicit false

namespace FirmwareCatalog.Toml

open Text (Stops)

abbrev pushed (c : Char) (r : List Char × List Char) : List Char × List Char := (c :: r.1, r.2)

/-! ### Escapes -/

theorem codePoint?_hexDigit : ∀ n < 0x80,
    codePoint? ['0', '0', hexDigit (n / 16), hexDigit n] = some (Char.ofNat n) := by decide

/-- An escape: the code behind its backslash is a letter of its own, or four digits. -/
inductive IsCode (c : Char) : List Char → Prop
  | letter {x : Char} (h : escaped? x = some c) : IsCode c [x]
  | digits {x y z w : Char} (h : codePoint? [x, y, z, w] = some c) : IsCode c ['u', x, y, z, w]

/-- A character stands for itself, or has an escape. -/
theorem escape?_cases (long : Bool) (c : Char) :
    (escape? long c = none ∧ c ≠ '\\' ∧ (isText c = true ∨ long = true ∧ c = '\n')) ∨
      ∃ code, escape? long c = some ('\\' :: code) ∧ IsCode c code := by
  have named : ∀ n, c.toNat = n → c = Char.ofNat n := by
    rintro n rfl
    exact (Char.ofNat_toNat c).symm
  unfold escape?
  dsimp only
  split
  · rename_i h; rw [named _ h]; exact Or.inr ⟨_, rfl, .letter rfl⟩
  split
  · rename_i h; rw [named _ h]; exact Or.inr ⟨_, rfl, .letter rfl⟩
  split
  · rename_i h
    rw [named _ h]
    cases long with
    | true => exact Or.inl ⟨rfl, by decide, Or.inr ⟨rfl, rfl⟩⟩
    | false => exact Or.inr ⟨_, rfl, .letter rfl⟩
  split
  · rename_i h; rw [named _ h]; exact Or.inr ⟨_, rfl, .letter rfl⟩
  split
  · rename_i h; rw [named _ h]; exact Or.inr ⟨_, rfl, .letter rfl⟩
  split
  · rename_i h; rw [h]; exact Or.inr ⟨_, rfl, .letter rfl⟩
  split
  · rename_i h
    have hdigits := codePoint?_hexDigit c.toNat (by omega)
    rw [Char.ofNat_toNat] at hdigits
    exact Or.inr ⟨_, rfl, .digits hdigits⟩
  · rename_i hslash h
    refine Or.inl ⟨rfl, hslash, Or.inl ?_⟩
    simp only [isText, Bool.or_eq_true, Bool.and_eq_true, decide_eq_true_eq, bne_iff_ne]
    omega

theorem basic?_code {c : Char} {code : List Char} (h : IsCode c code) (rest : List Char) :
    basic? ('\\' :: (code ++ rest)) = (basic? rest).map (pushed c) := by
  cases h with
  | @letter x h =>
      unfold escaped? at h
      split at h <;> cases h <;> rfl
  | digits h => simp [basic?, h]

theorem longBasic?_code {c : Char} {code : List Char} (h : IsCode c code) (rest : List Char) :
    longBasic? false ('\\' :: (code ++ rest)) = (longBasic? false rest).map (pushed c) := by
  cases h with
  | @letter x h =>
      unfold escaped? at h
      split at h <;> cases h <;> rfl
  | digits h => simp [longBasic?, h]

/-! ### One quote on each side -/

theorem basic?_plain {c : Char} (hquote : c ≠ '"') (hslash : c ≠ '\\') (htext : isText c = true)
    (rest : List Char) : basic? (c :: rest) = (basic? rest).map (pushed c) := by
  rw [basic?]
  · simp [htext]
  all_goals simp_all

/-- **A text with escapes is read back.** -/
theorem basic?_escaped (s rest : List Char) :
    basic? (escaped false 0 s ++ '"' :: rest) = some (s, rest) := by
  induction s with
  | nil => rfl
  | cons c s ih =>
      unfold escaped
      by_cases hquote : c = '"'
      · subst hquote
        have hcode : IsCode '"' ['"'] := .letter (by decide)
        have hread := basic?_code hcode (escaped false 0 s ++ '"' :: rest)
        simpa [ih] using hread
      · rw [if_neg hquote]
        rcases escape?_cases false c with ⟨hnone, hslash, htext⟩ | ⟨code, hcode, hread⟩
        · have htext' : isText c = true := by simpa using htext
          simp only [hnone, List.cons_append, basic?_plain hquote hslash htext', ih,
            Option.map_some]
        · simp only [hcode, List.append_assoc, List.cons_append, basic?_code hread, ih,
            Option.map_some]

/-- A text without quotes and control characters is read as it stands. -/
theorem literal?_append {s : List Char} (h : ∀ c ∈ s, c ≠ '\'' ∧ isText c = true)
    (rest : List Char) : literal? (s ++ '\'' :: rest) = some (s, rest) := by
  induction s with
  | nil => rfl
  | cons c s ih =>
      obtain ⟨hquote, htext⟩ := h c List.mem_cons_self
      have hrest := ih fun d hd => h d (List.mem_cons_of_mem _ hd)
      rw [List.cons_append, literal?]
      · simp [htext, hrest]
      · simpa using hquote

/-! ### Three quotes on each side -/

/-- Not a quote of the given kind. -/
abbrev StopsQuotes (q : Char) (s : List Char) : Prop := Stops (· == q) s

theorem closingQuotes_replicate (q : Char) {r : Nat} (hr : r ≤ 2) {rest : List Char}
    (hrest : StopsQuotes q rest) :
    closingQuotes q (List.replicate r q ++ rest) = (List.replicate r q, rest) := by
  have htake : ((List.replicate r q ++ rest).take 2).takeWhile (· == q) = List.replicate r q := by
    rw [List.take_append, List.take_of_length_le (by simpa using hr)]
    refine Text.takeWhile_append_stop ?_ (hrest.take _)
    intro c hc
    simpa using List.eq_of_mem_replicate hc
  simp [closingQuotes, htake]

/-- If a quote without two more of them belongs to the text, so do up to two in front of something
else. -/
theorem read_quotes {read : List Char → Option (List Char × List Char)} {q : Char}
    (hone : ∀ t, (∀ u, t ≠ q :: q :: u) → read (q :: t) = (read t).map (pushed q)) {r : Nat}
    (hr : r ≤ 2) {rest : List Char} (hrest : StopsQuotes q rest) :
    read (List.replicate r q ++ rest) =
      (read rest).map fun t => (List.replicate r q ++ t.1, t.2) := by
  have hne (u : List Char) : rest ≠ q :: u := by
    rintro rfl
    simp [StopsQuotes] at hrest
  match r, hr with
  | 0, _ => simp
  | 1, _ => exact hone rest fun u => hne _
  | 2, _ =>
      have hboth := hone (q :: rest) fun u hu => hne _ (List.cons.inj hu).2
      rw [hone rest fun u => hne _, Option.map_map] at hboth
      exact hboth

theorem longBasic?_quote (t : List Char) (ht : ∀ u, t ≠ '"' :: '"' :: u) :
    longBasic? false ('"' :: t) = (longBasic? false t).map (pushed '"') := by
  rw [longBasic?]
  · simp [isBlank, isText]
  all_goals simp_all

theorem longLiteral?_quote (t : List Char) (ht : ∀ u, t ≠ '\'' :: '\'' :: u) :
    longLiteral? ('\'' :: t) = (longLiteral? t).map (pushed '\'') := by
  rw [longLiteral?]
  · simp [isText]
  all_goals simp_all

/-- A character that needs no escape, or the end of a line, is read as itself. -/
theorem longBasic?_plain {c : Char} (hquote : c ≠ '"') (hslash : c ≠ '\\')
    (htext : isText c = true ∨ c = '\n') (rest : List Char) :
    longBasic? false (c :: rest) = (longBasic? false rest).map (pushed c) := by
  by_cases hline : c = '\n'
  · subst hline
    rw [longBasic?]
    rfl
  · have htext' : isText c = true := htext.resolve_right hline
    have hreturn : c ≠ '\r' := by
      rintro rfl
      cases htext'
    rw [longBasic?]
    · simp [htext']
    all_goals simp_all

/-- **A text with escapes is read back**, also from the middle of a run of quotes. -/
theorem longBasic?_escaped {rest : List Char} (hrest : StopsQuotes '"' rest) (s : List Char) :
    ∀ r ≤ 2, longBasic? false
      (List.replicate r '"' ++ (escaped true r s ++ '"' :: '"' :: '"' :: rest)) =
        some (List.replicate r '"' ++ s, rest) := by
  induction s with
  | nil =>
      intro r hr
      -- the quotes of the text and those that close it are no more than five
      have hrun : List.replicate r '"' ++ (escaped true r [] ++ '"' :: '"' :: '"' :: rest) =
          '"' :: '"' :: '"' :: (List.replicate r '"' ++ rest) := by
        match r, hr with
        | 0, _ | 1, _ | 2, _ => rfl
      rw [hrun, longBasic?, closingQuotes_replicate '"' hr hrest, List.append_nil]
  | cons c s ih =>
      intro r hr
      have hend := ih 0 (by omega)
      rw [List.replicate_zero, List.nil_append, List.nil_append] at hend
      unfold escaped
      by_cases hquote : c = '"'
      · -- two quotes of a run stand as they are; the third one is escaped, and begins a new run
        subst hquote
        rw [if_pos rfl]
        by_cases hrun : r < 2
        · have hnext := ih (r + 1) (by omega)
          rw [List.replicate_succ', List.append_assoc] at hnext
          simpa [hrun] using hnext
        · have hcode : IsCode '"' ['"'] := .letter (by decide)
          have hread := longBasic?_code hcode (escaped true 0 s ++ '"' :: '"' :: '"' :: rest)
          rw [hend] at hread
          simp only [if_true, if_neg hrun, List.cons_append]
          rw [read_quotes longBasic?_quote hr (by simp [StopsQuotes])]
          exact congrArg (Option.map _) hread
      · rw [if_neg hquote]
        rcases escape?_cases true c with ⟨hnone, hslash, htext⟩ | ⟨code, hcode, hread⟩
        · have htext' : isText c = true ∨ c = '\n' := by simpa using htext
          simp only [hnone, List.cons_append]
          rw [read_quotes longBasic?_quote hr (by simpa [StopsQuotes] using hquote),
            longBasic?_plain hquote hslash htext', hend]
          rfl
        · simp only [hcode, List.append_assoc, List.cons_append]
          rw [read_quotes longBasic?_quote hr (by simp [StopsQuotes]), longBasic?_code hread, hend]
          rfl

/-- **A text without control characters and longer runs of quotes is read as it stands.** -/
theorem longLiteral?_append {rest : List Char} (hrest : StopsQuotes '\'' rest) {s : List Char}
    (hcontrol : ∀ c ∈ s, isText c = true ∨ c = '\n') :
    ∀ r, longestRun '\'' r s ≤ 2 →
      longLiteral? (List.replicate r '\'' ++ (s ++ '\'' :: '\'' :: '\'' :: rest)) =
        some (List.replicate r '\'' ++ s, rest) := by
  induction s with
  | nil =>
      intro r hr
      have hr' : r ≤ 2 := hr
      have hrun : List.replicate r '\'' ++ ([] ++ '\'' :: '\'' :: '\'' :: rest) =
          '\'' :: '\'' :: '\'' :: (List.replicate r '\'' ++ rest) := by
        match r, hr' with
        | 0, _ | 1, _ | 2, _ => rfl
      rw [hrun, longLiteral?, closingQuotes_replicate '\'' hr' hrest, List.append_nil]
  | cons c s ih =>
      intro r hr
      have hnext := ih fun d hd => hcontrol d (List.mem_cons_of_mem _ hd)
      unfold longestRun at hr
      by_cases hquote : c = '\''
      · -- the run goes on
        subst hquote
        rw [if_pos rfl] at hr
        have hread := hnext (r + 1) hr
        rw [List.replicate_succ', List.append_assoc] at hread
        simpa using hread
      · rw [if_neg hquote] at hr
        have hend := hnext 0 (by omega)
        rw [List.replicate_zero, List.nil_append, List.nil_append] at hend
        -- the run is over, and was not long enough to close the text
        have hread : longLiteral? (c :: (s ++ '\'' :: '\'' :: '\'' :: rest)) = some (c :: s, rest) := by
          by_cases hline : c = '\n'
          · subst hline
            rw [longLiteral?, hend]
            rfl
          · have htext : isText c = true :=
              (hcontrol c List.mem_cons_self).resolve_right hline
            have hreturn : c ≠ '\r' := by
              rintro rfl
              cases htext
            rw [longLiteral?]
            · simp [htext, hend]
            all_goals simp_all
        rw [List.cons_append,
          read_quotes longLiteral?_quote (by omega) (by simpa [StopsQuotes] using hquote), hread]
        rfl

/-! ### Written texts -/

/-- A run that a text goes on with is no longer than its longest one. -/
theorem le_longestRun (q : Char) (s : List Char) : ∀ run, run ≤ longestRun q run s := by
  induction s with
  | nil =>
      intro run
      exact Nat.le_refl run
  | cons c s ih =>
      intro run
      unfold longestRun
      split
      · exact Nat.le_trans (Nat.le_succ run) (ih (run + 1))
      · exact Nat.le_max_left run _

/-- Without runs of a quote the quote is not there. -/
theorem ne_of_longestRun {q : Char} {s : List Char} :
    ∀ {r : Nat}, longestRun q r s = 0 → ∀ c ∈ s, c ≠ q := by
  induction s with
  | nil => simp
  | cons d s ih =>
      intro r h c hc
      unfold longestRun at h
      by_cases hd : d = q
      · rw [if_pos hd] at h
        have hlarge := le_longestRun q s (r + 1)
        omega
      · rw [if_neg hd] at h
        rcases List.mem_cons.1 hc with rfl | hc
        · exact hd
        · exact ih (r := 0) (by omega) c hc

/-- What is no control character is part of a text, or the end of a line. -/
theorem isText_of_not_isControl {c : Char} (h : isControl c = false) :
    isText c = true ∨ c = '\n' := by
  by_cases hline : c = '\n'
  · exact Or.inr hline
  · refine Or.inl ?_
    by_cases htab : c = '\t'
    · subst htab
      rfl
    · simp only [isControl, Bool.or_eq_false_iff, Bool.and_eq_false_iff, decide_eq_false_iff_not,
        bne_eq_false_iff_eq, beq_eq_false_iff_ne, hline, htab, or_false] at h
      simp only [isText, Bool.or_eq_true, Bool.and_eq_true, decide_eq_true_eq, bne_iff_ne]
      omega

/-- A text is written in single quotes only if it has none, and no control characters. -/
theorem of_choose_literal {s : List Char} (h : Quoting.choose s = .literal) :
    ∀ c ∈ s, c ≠ '\'' ∧ isText c = true := by
  have hchosen : s.any isControl = false ∧ s.contains '\n' = false ∧ longestRun '\'' 0 s = 0 := by
    grind [Quoting.choose]
  obtain ⟨hcontrol, hline, hsingle⟩ := hchosen
  intro c hc
  refine ⟨ne_of_longestRun hsingle c hc, ?_⟩
  have htext := isText_of_not_isControl (by simpa using List.any_eq_false.1 hcontrol c hc)
  refine htext.resolve_right ?_
  rintro rfl
  simp [hc] at hline

/-- A text is written in three single quotes only if it has no run of as many, and no control
characters. -/
theorem of_choose_longLiteral {s : List Char} (h : Quoting.choose s = .longLiteral) :
    longestRun '\'' 0 s ≤ 2 ∧ ∀ c ∈ s, isText c = true ∨ c = '\n' := by
  have hchosen : s.any isControl = false ∧ longestRun '\'' 0 s ≤ 2 := by
    grind [Quoting.choose]
  obtain ⟨hcontrol, hsingle⟩ := hchosen
  refine ⟨hsingle, fun c hc => ?_⟩
  exact isText_of_not_isControl (by simpa using List.any_eq_false.1 hcontrol c hc)

/-- Escapes leave no text that begins with a carriage return, and none that begins with the end of a
line unless the text itself has one.  With one quote on each side they leave no quote either. -/
theorem head?_escaped {long : Bool} {s : List Char} {c : Char}
    (h : (escaped long 0 s).head? = some c) :
    c ≠ '\r' ∧ (c = '\n' → '\n' ∈ s) ∧ (long = false → c ≠ '"') := by
  cases s with
  | nil => cases h
  | cons d s =>
      unfold escaped at h
      by_cases hquote : d = '"'
      · cases long
        · obtain rfl : '\\' = c := by simpa [hquote] using h
          exact ⟨by decide, nofun, by decide⟩
        · obtain rfl : '"' = c := by simpa [hquote] using h
          exact ⟨by decide, nofun, nofun⟩
      · rw [if_neg hquote] at h
        rcases escape?_cases long d with ⟨hnone, hslash, htext⟩ | ⟨code, hcode, hread⟩
        · obtain rfl : d = c := by simpa [hnone] using h
          refine ⟨?_, fun hline => hline ▸ List.mem_cons_self, fun _ => hquote⟩
          rintro rfl
          rcases htext with htext | ⟨-, htext⟩ <;> cases htext
        · obtain rfl : '\\' = c := by simpa [hcode] using h
          exact ⟨by decide, nofun, nofun⟩

/-- The end of a line is put in front of what would lose its own. -/
theorem skipNewline_opening {s t : List Char}
    (ht : ∀ c, t.head? = some c → c ≠ '\r' ∧ (c = '\n' → '\n' ∈ s)) :
    skipNewline ((if s.contains '\n' then ['\n'] else []) ++ t) = t := by
  by_cases hline : '\n' ∈ s
  · simp [hline, skipNewline, newline?]
  · have hnone : newline? t = none := by
      cases t with
      | nil => rfl
      | cons c t =>
          obtain ⟨hreturn, hc⟩ := ht c rfl
          rw [newline?]
          · rintro r ⟨rfl, rfl⟩
            exact hline (hc rfl)
          · rintro r ⟨rfl, rfl⟩
            exact hreturn rfl
    simp [hline, skipNewline, hnone]

theorem ne_three {q : Char} {content rest : List Char} (hcontent : content.head? ≠ some q)
    (hrest : StopsQuotes q rest) (u : List Char) : content ++ q :: rest ≠ q :: q :: u := by
  cases content with
  | nil =>
      rintro h
      obtain rfl : rest = q :: u := (List.cons.inj h).2
      simp [StopsQuotes] at hrest
  | cons c content =>
      intro h
      exact hcontent (congrArg some (List.cons.inj h).1)

/-- What holds of the first character of a content, and of the quote, holds of the first character
of the two. -/
theorem head?_append_quote {P : Char → Prop} {q : Char} {content : List Char} (rest : List Char)
    (hcontent : ∀ c, content.head? = some c → P c) (hquote : P q) (c : Char)
    (h : (content ++ q :: rest).head? = some c) : P c := by
  cases content with
  | nil =>
      cases h
      exact hquote
  | cons d content => exact hcontent c h

/-- **A written text is read back**, with anything behind it but a quote. -/
theorem string?_quote (s : List Char) {rest : List Char} (hdouble : StopsQuotes '"' rest)
    (hsingle : StopsQuotes '\'' rest) : string? (quote s ++ rest) = some (s, rest) := by
  unfold quote
  dsimp only
  cases hchoose : Quoting.choose s with
  | basic =>
      have hread := basic?_escaped s rest
      simp only [Quoting.delimiter, Quoting.isLong, Quoting.content, Bool.false_and,
        Bool.false_eq_true, if_false, List.append_nil, List.append_assoc, List.cons_append,
        List.nil_append]
      rw [string?]
      · exact hread
      · exact ne_three (fun h => (head?_escaped h).2.2 rfl rfl) hdouble
  | literal =>
      have hplain := of_choose_literal hchoose
      have hread := literal?_append hplain rest
      simp only [Quoting.delimiter, Quoting.isLong, Quoting.content, Bool.false_and,
        Bool.false_eq_true, if_false, List.append_nil, List.append_assoc, List.cons_append,
        List.nil_append]
      rw [string?]
      · exact hread
      · exact ne_three (fun h => (hplain _ (List.mem_of_head? h)).1 rfl) hsingle
  | longBasic =>
      -- an end of line right behind the quotes is dropped, so one stands there for that
      have hread := longBasic?_escaped hdouble s 0 (by decide)
      simp only [Quoting.delimiter, Quoting.isLong, Quoting.content, Bool.true_and,
        List.append_assoc, List.cons_append, List.nil_append]
      rw [string?, skipNewline_opening]
      · exact hread
      · refine head?_append_quote _ (fun c h => ?_) ⟨by decide, nofun⟩
        exact ⟨(head?_escaped h).1, (head?_escaped h).2.1⟩
  | longLiteral =>
      obtain ⟨hrun, htext⟩ := of_choose_longLiteral hchoose
      have hread := longLiteral?_append hsingle htext 0 hrun
      simp only [Quoting.delimiter, Quoting.isLong, Quoting.content, Bool.true_and,
        List.append_assoc, List.cons_append, List.nil_append]
      rw [string?, skipNewline_opening]
      · exact hread
      · refine head?_append_quote _ (fun c h => ?_) ⟨by decide, nofun⟩
        have hc : c ∈ s := List.mem_of_head? h
        refine ⟨?_, fun hline => hline ▸ hc⟩
        rintro rfl
        rcases htext _ hc with h | h <;> cases h

end FirmwareCatalog.Toml
