/-
**Addresses of the web are read as they are shown.**

What was read once is written so that it is read again as the same.  User and password are encoded,
so that neither has a sign that would end it; the host ends at a colon or where the authority does;
a port is shown only if the scheme does not have it anyway.  The segments of the path are encoded,
separate nothing, and none of them is one or two dots, as those lead elsewhere when they are placed.

Main definitions:

* `Authority.IsRead`, `Url.IsWritten` — authorities and segments that were read.

Main results:

* `Url.parse_isRead` — **what an address of the web is made of**;
* `Url.readAuthority_render` — an authority is read as it is shown;
* `Url.segmentsAfterHost_render` — the segments of a path are read as they are shown;
* `Url.parseChars_render` — **an address of the web is read as it is shown**.
-/
import FirmwareCatalog.Proofs.Url.Host
import FirmwareCatalog.Proofs.Url.Web

set_option relaxedAutoImplicit false
set_option autoImplicit false

namespace FirmwareCatalog

/-! ### Encoded texts -/

namespace Percent

/-- Nothing is left to encode in an encoded text, if percent signs and digits may stand for
themselves. -/
theorem not_of_mem_encode {set : Char → Bool} (hsign : set '%' = false)
    (hdigit : ∀ n < 16, set (digit n) = false) {s : List Char} :
    ∀ c ∈ encode set s, set c = false := by
  intro c hc
  exact forall_mem_encode (p := fun c => set c = false) hsign hdigit (fun d _ hd => hd) hc

end Percent

/-- The authority was read after a scheme: user and password are encoded, the host is one that was
read, and the port is not the one that the scheme has anyway. -/
structure Authority.IsRead (scheme : List Char) (a : Authority) : Prop where
  user : ∀ c ∈ a.user, Percent.userinfo c = false
  password : ∀ c ∈ a.password, Percent.userinfo c = false
  host : ∃ host s, a.host = some host ∧ Url.namedHost s = .ok host
  port : ∀ n ∈ a.port, n ≤ 65535 ∧ Scheme.defaultPort? scheme ≠ some n

namespace Url

/-- The segment is encoded, separates nothing, and is neither one nor two dots. -/
structure IsWritten (s : List Char) : Prop where
  encoded : ∀ c ∈ s, Percent.path c = false
  slashes : ∀ c ∈ s, isSlash true c = false
  dots : isDot s = false ∧ isDotDot s = false

theorem IsWritten.slash_not_mem {s : List Char} (h : IsWritten s) : '/' ∉ s := by
  intro hc
  exact absurd (h.slashes '/' hc) (by decide)

theorem isWritten_nil : IsWritten [] := by
  refine ⟨?_, ?_, by decide⟩
  · intro c hc
    cases hc
  · intro c hc
    cases hc

theorem isWritten_append_nil {ss : List (List Char)} (h : ∀ s ∈ ss, IsWritten s) :
    ∀ s ∈ ss ++ [[]], IsWritten s := by
  intro s hs
  rcases List.mem_append.1 hs with hs | hs
  · exact h s hs
  · rw [List.mem_singleton.1 hs]
    exact isWritten_nil

/-! ### What is read -/

theorem userinfo_of_mem_encode {s : List Char} :
    ∀ c ∈ Percent.encode Percent.userinfo s, Percent.userinfo c = false :=
  Percent.not_of_mem_encode (by decide) (by decide)

/-- A port that is kept. -/
theorem readPort_eq_ok {scheme s rest : List Char} {port : Option Nat}
    (h : readPort scheme s = .ok (port, rest)) :
    ∀ n ∈ port, n ≤ 65535 ∧ Scheme.defaultPort? scheme ≠ some n := by
  unfold readPort at h
  dsimp only at h
  split at h
  case isTrue => cases h
  case isFalse hle =>
    split at h
    case isTrue => cases h
    case isFalse =>
      split at h
      case isTrue =>
        cases h
        intro n hn
        cases hn
      case isFalse hkept =>
        cases h
        rintro n hn
        obtain rfl := Option.some.inj hn
        rw [Bool.or_eq_true, not_or, beq_iff_eq] at hkept
        exact ⟨Nat.not_lt.1 hle, hkept.2⟩

/-- What stands before and after the sign that ends the user; there may be nothing before it. -/
def splitAuthority (s : List Char) : List Char × List Char := (splitUser s).getD ([], s)

def hostPart (s : List Char) : Nat := hostLength false (splitAuthority s).2

/-- **How an authority after a special scheme is read.** -/
theorem readAuthority_eq_ok_iff {scheme s below : List Char} {ended : Bool} {a : Authority}
    (hspecial : Scheme.isSpecial scheme = true) :
    readAuthority scheme s ended = .ok (a, below) ↔
      ((splitUser s).isSome && (splitAuthority s).1.isEmpty && (splitAuthority s).2.isEmpty &&
          ended) = false ∧
        (splitAuthority s).2.take (hostPart s) ≠ [] ∧
        ∃ host port, namedHost ((splitAuthority s).2.take (hostPart s)) = .ok host ∧
          readPort scheme (((splitAuthority s).2.drop (hostPart s)).drop 1) = .ok (port, below) ∧
          ⟨(credentials (splitAuthority s).1).1, (credentials (splitAuthority s).1).2, some host,
            port⟩ = a := by
  -- the faults are tried in turn, and each excludes one part of what is claimed
  unfold readAuthority
  simp only [hspecial, Bool.true_or, if_true, hostPart, splitAuthority]
  split
  case isTrue hlost =>
    constructor
    · intro h
      cases h
    · rintro ⟨hkept, -⟩
      rw [hlost] at hkept
      cases hkept
  case isFalse hkept =>
    split
    case isTrue hempty =>
      constructor
      · intro h
        cases h
      · rintro ⟨-, hne, -⟩
        exact absurd (List.isEmpty_iff.1 hempty) hne
    case isFalse hne =>
      simp only [bind_eq_ok_iff]
      constructor
      · rintro ⟨host, hhost, ⟨port, rest⟩, hport, h⟩
        cases h
        refine ⟨Bool.eq_false_iff.2 hkept, fun hnil => ?_, host, port, hhost, hport, rfl⟩
        exact hne (List.isEmpty_iff.2 hnil)
      · rintro ⟨-, -, host, port, hhost, hport, rfl⟩
        exact ⟨host, hhost, (port, below), hport, rfl⟩

/-- **An authority after a special scheme** is read as one. -/
theorem isRead_of_readAuthority {scheme s below : List Char} {ended : Bool} {a : Authority}
    (hspecial : Scheme.isSpecial scheme = true)
    (h : readAuthority scheme s ended = .ok (a, below)) : a.IsRead scheme := by
  obtain ⟨-, -, host, port, hhost, hport, rfl⟩ := (readAuthority_eq_ok_iff hspecial).1 h
  exact ⟨userinfo_of_mem_encode, userinfo_of_mem_encode, ⟨host, _, rfl, hhost⟩,
    readPort_eq_ok hport⟩

/-- A piece that is placed behind written segments leaves written segments. -/
theorem isWritten_of_mem_place {ss : List (List Char)} {last : Bool} {t : List Char}
    (hss : ∀ s ∈ ss, IsWritten s)
    (ht : (∀ c ∈ t, Percent.path c = false) ∧ ∀ c ∈ t, isSlash true c = false) :
    ∀ s ∈ place false last ss t, IsWritten s := by
  have hlast {ts : List (List Char)} (hts : ∀ s ∈ ts, IsWritten s) :
      ∀ s ∈ ts ++ (if last then [[]] else []), IsWritten s := by
    intro s hs
    rcases List.mem_append.1 hs with hs | hs
    · exact hts s hs
    · split at hs
      · rw [List.mem_singleton.1 hs]
        exact isWritten_nil
      · cases hs
  rw [place, Bool.false_and, Bool.false_and]
  split
  case isTrue => exact hlast fun s hs => hss s (mem_of_mem_up hs)
  case isFalse hdotdot =>
    split
    case isTrue => exact hlast hss
    case isFalse hdot =>
      intro s hs
      rcases List.mem_append.1 hs with hs | hs
      · exact hss s hs
      · rw [List.mem_singleton.1 hs]
        exact ⟨ht.1, ht.2, Bool.eq_false_iff.2 hdot, Bool.eq_false_iff.2 hdotdot⟩

/-- Segments that are placed, but for dots, are what a path is made of. -/
theorem isWritten_of_mem_placeAll {ss ps : List (List Char)} (hss : ∀ s ∈ ss, IsWritten s)
    (hps : ∀ s ∈ ps, (∀ c ∈ s, Percent.path c = false) ∧ ∀ c ∈ s, isSlash true c = false) :
    ∀ s ∈ placeAll false ss ps, IsWritten s := by
  induction ps generalizing ss with
  | nil => exact hss
  | cons t ps ih =>
      have ht := hps t List.mem_cons_self
      cases ps with
      | nil => exact isWritten_of_mem_place hss ht
      | cons t' ps =>
          exact ih (isWritten_of_mem_place hss ht) fun s hs => hps s (List.mem_cons_of_mem t hs)

/-- **The segments of an address of the web.** -/
theorem isWritten_segmentsAfterHost {scheme path : List Char} (hweb : Scheme.isWeb scheme = true) :
    ∀ s ∈ segmentsAfterHost scheme path, IsWritten s := by
  have hslash : isSlash true '%' = false ∧ ∀ n < 16, isSlash true (Percent.digit n) = false := by
    decide
  simp only [segmentsAfterHost, segmentsOf, placed, splitSlashes, Scheme.isSpecial_of_isWeb hweb,
    Scheme.beq_file_of_isWeb hweb, Bool.not_true, Bool.and_false, Bool.false_eq_true, if_false]
  refine isWritten_of_mem_placeAll (fun s hs => by cases hs) fun s hs => ?_
  obtain ⟨piece, hpiece, rfl⟩ := List.mem_map.1 hs
  refine ⟨Percent.not_of_mem_encode (by decide) (by decide), fun c hc => ?_⟩
  exact Percent.forall_mem_encode (p := fun c => isSlash true c = false) hslash.1 hslash.2
    (fun d hd _ => Text.cut_of_mem_splitWhere hpiece d hd) hc

/-- **What an address of the web is made of.** -/
theorem parse_isRead {text : String} {u : Url} (h : parse text = .ok u)
    (hweb : Scheme.isWeb u.scheme = true) :
    ∃ a ss, u.authority = some a ∧ a.IsRead u.scheme ∧ u.setOff = false ∧
      u.path = .segments ss ∧ ∀ s ∈ ss, IsWritten s := by
  rw [parse, parseChars] at h
  split at h
  case h_1 => cases h
  case h_2 scheme rest _ =>
    split at h
    case isTrue =>
      rw [scheme_of_ofFile h] at hweb
      cases hweb
    case isFalse =>
      split at h
      case isTrue hspecial =>
        rw [withAuthority] at h
        obtain ⟨⟨a, below⟩, hread, h⟩ := bind_eq_ok_iff.1 h
        cases h
        exact ⟨a, _, rfl, isRead_of_readAuthority hspecial hread, rfl, rfl,
          isWritten_segmentsAfterHost hweb⟩
      case isFalse hspecial =>
        rw [scheme_of_ofOther h] at hweb
        exact absurd (Scheme.isSpecial_of_isWeb hweb) hspecial

/-! ### What is read again -/

def portText (port : Option Nat) : List Char :=
  match port with
  | none => []
  | some n => ':' :: Nat.toDigits 10 n

theorem mem_portText {port : Option Nat} {c : Char} (h : c ∈ portText port) :
    c = ':' ∨ c.isDigit = true := by
  cases port with
  | none => cases h
  | some n => exact (List.mem_cons.1 h).imp_right Text.isDigit_of_mem_toDigits

/-- A port is read as it is shown. -/
theorem readPort_portText {scheme : List Char} {port : Option Nat}
    (h : ∀ n ∈ port, n ≤ 65535 ∧ Scheme.defaultPort? scheme ≠ some n) :
    readPort scheme ((portText port).drop 1) = .ok (port, []) := by
  cases port with
  | none => rfl
  | some n =>
      obtain ⟨hle, hother⟩ := h n rfl
      have hrun : (Nat.toDigits 10 n ++ []).takeWhile Char.isDigit = Nat.toDigits 10 n :=
        Text.takeWhile_append_stop (fun c hc => Text.isDigit_of_mem_toDigits hc)
          (Text.stops_nil _)
      rw [List.append_nil] at hrun
      have hne : (Nat.toDigits 10 n).isEmpty = false := by simp
      have hdefault : (Scheme.defaultPort? scheme == some n) = false := beq_eq_false_iff_ne.2 hother
      unfold readPort
      simp only [portText, List.drop_succ_cons, List.drop_zero, hrun, List.drop_length,
        Text.ofDigits?_toDigits, Option.getD_some, if_neg (Nat.not_lt.2 hle), List.head?_nil,
        Option.any_none, Bool.false_eq_true, if_false, hne, hdefault, Bool.or_false]

theorem splitUser_of_not_mem {s : List Char} (h : '@' ∉ s) : splitUser s = none := by
  unfold splitUser
  simp only [(Text.reverse_takeWhile_ne h []).2, if_true]

/-- The last sign ends the user. -/
theorem splitUser_append {t : List Char} (h : '@' ∉ t) (s : List Char) :
    splitUser (s ++ '@' :: t) = some (s, t) := by
  have hlength : t.length ≠ (s ++ '@' :: t).length := by
    rw [List.length_append, List.length_cons]
    omega
  have htake : (s ++ '@' :: t).take ((s ++ '@' :: t).length - t.length - 1) = s := by
    have hcount : (s ++ '@' :: t).length - t.length - 1 = s.length := by
      rw [List.length_append, List.length_cons]
      omega
    rw [hcount, List.take_left]
  unfold splitUser
  simp only [(Text.reverse_takeWhile_ne h s).1, if_neg hlength, htake]

/-- **A user and a password are read as they are shown.** -/
theorem credentials_append {user password : List Char}
    (huser : ∀ c ∈ user, Percent.userinfo c = false)
    (hpassword : ∀ c ∈ password, Percent.userinfo c = false) :
    credentials (user ++ if password.isEmpty then [] else ':' :: password) = (user, password) := by
  have hrun : ∀ c ∈ user, decide (c ≠ ':') = true := by
    intro c hc
    refine decide_eq_true ?_
    rintro rfl
    exact absurd (huser ':' hc) (by decide)
  have hstop : Text.Stops (fun c => decide (c ≠ ':'))
      (if password.isEmpty then [] else ':' :: password) := by
    split
    · exact Text.stops_nil _
    · simp
  have hdrop : (user ++ if password.isEmpty then [] else ':' :: password).drop (user.length + 1) =
      password := by
    rw [List.drop_append]
    cases password with
    | nil => simp
    | cons c password => simp
  unfold credentials
  simp only [Text.takeWhile_append_stop hrun hstop, hdrop, Percent.encode_eq_self huser,
    Percent.encode_eq_self hpassword]

theorem render_authority {a : Authority} {host : Host} (hhost : a.host = some host) :
    a.render = a.credentials ++ (host.render ++ portText a.port) := by
  rw [Authority.render, hhost, List.append_assoc]
  rfl

/-- What is read of the text of an authority before and after the sign. -/
theorem splitAuthority_render {scheme : List Char} {a : Authority} (h : a.IsRead scheme)
    {t : List Char} (ht : '@' ∉ t) : ∃ before, splitAuthority (a.credentials ++ t) = (before, t) ∧
      credentials before = (a.user, a.password) := by
  rw [Authority.credentials]
  split
  case isTrue hnone =>
    rw [Bool.and_eq_true, List.isEmpty_iff, List.isEmpty_iff] at hnone
    refine ⟨[], ?_, by rw [hnone.1, hnone.2]; rfl⟩
    rw [List.nil_append, splitAuthority, splitUser_of_not_mem ht]
    rfl
  case isFalse =>
    refine ⟨_, ?_, credentials_append h.user h.password⟩
    rw [List.append_assoc, List.append_assoc, List.singleton_append, ← List.append_assoc,
      splitAuthority, splitUser_append ht]
    rfl

/-- **An authority is read as it is shown.** -/
theorem readAuthority_render {scheme : List Char} (hspecial : Scheme.isSpecial scheme = true)
    {a : Authority} (h : a.IsRead scheme) (ended : Bool) :
    readAuthority scheme a.render ended = .ok (a, []) := by
  obtain ⟨host, s, hhost, hread⟩ := h.host
  have htext := isHostText_render hread
  have hsign : '@' ∉ host.render ++ portText a.port := by
    intro hmem
    rcases List.mem_append.1 hmem with hmem | hmem
    · exact (htext.plain '@' hmem).2.2 (by decide)
    · exact absurd (mem_portText hmem) (by decide)
  obtain ⟨before, hsplit, hcredentials⟩ := splitAuthority_render h hsign
  have hends : ∀ c ∈ (portText a.port).head?, c = ':' := by
    intro c hc
    cases hport : a.port with
    | none =>
        rw [hport] at hc
        cases hc
    | some n =>
        rw [hport] at hc
        cases hc
        rfl
  have hpart : hostPart a.render = host.render.length := by
    rw [hostPart, render_authority hhost, hsplit]
    exact htext.ends _ hends
  rw [readAuthority_eq_ok_iff hspecial, hpart, render_authority hhost, hsplit, List.take_left,
    List.drop_left]
  refine ⟨?_, htext.ne_nil, host, a.port, namedHost_render hread, readPort_portText h.port, ?_⟩
  · have hne : (host.render ++ portText a.port).isEmpty = false := by simp [htext.ne_nil]
    rw [hne, Bool.and_false, Bool.false_and]
  · rw [hcredentials, ← hhost]

theorem splitWhere_append {cut : Char → Bool} {s : List Char} (hs : ∀ c ∈ s, cut c = false)
    {sign : Char} (hsign : cut sign = true) (t : List Char) :
    Text.splitWhere cut (s ++ sign :: t) = s :: Text.splitWhere cut t := by
  obtain ⟨p, ps, hsplit⟩ := List.exists_cons_of_ne_nil (Text.splitWhere_ne_nil cut t)
  induction s with
  | nil => simp only [List.nil_append, Text.splitWhere, hsplit, hsign, if_true]
  | cons c s ih =>
      have hc := hs c List.mem_cons_self
      rw [List.cons_append, Text.splitWhere, ih fun d hd => hs d (List.mem_cons_of_mem c hd)]
      simp only [hc, Bool.false_eq_true, if_false]

theorem splitWhere_of_not {cut : Char → Bool} {s : List Char} (hs : ∀ c ∈ s, cut c = false) :
    Text.splitWhere cut s = [s] := by
  induction s with
  | nil => rfl
  | cons c s ih =>
      have hc := hs c List.mem_cons_self
      rw [Text.splitWhere, ih fun d hd => hs d (List.mem_cons_of_mem c hd)]
      simp only [hc, Bool.false_eq_true, if_false]

/-- The pieces of the text of a path are its segments. -/
theorem splitSlashes_render {ss : List (List Char)} (h : ∀ s ∈ ss, IsWritten s) (s : List Char)
    (hs : IsWritten s) :
    splitSlashes true (s ++ (UrlPath.segments ss).render) = s :: ss := by
  induction ss generalizing s with
  | nil =>
      rw [UrlPath.render, List.flatMap_nil, List.append_nil]
      exact splitWhere_of_not hs.slashes
  | cons t ss ih =>
      have hrest := ih (fun u hu => h u (List.mem_cons_of_mem t hu)) t (h t List.mem_cons_self)
      rw [UrlPath.render] at hrest ⊢
      rw [List.flatMap_cons, List.cons_append, ← hrest]
      exact splitWhere_append hs.slashes rfl _

/-- Segments that are not dots are placed as they are. -/
theorem placeAll_of_isWritten {ss ps : List (List Char)} (h : ∀ s ∈ ps, IsWritten s) :
    placeAll false ss ps = ss ++ ps := by
  have hplace (ss : List (List Char)) (last : Bool) {t : List Char} (ht : IsWritten t) :
      place false last ss t = ss ++ [t] := by
    rw [place, ht.dots.1, ht.dots.2]
    rfl
  induction ps generalizing ss with
  | nil => exact (List.append_nil ss).symm
  | cons t ps ih =>
      have ht := h t List.mem_cons_self
      cases ps with
      | nil => exact hplace ss true ht
      | cons t' ps =>
          rw [placeAll, hplace ss false ht, ih fun s hs => h s (List.mem_cons_of_mem t hs),
            List.append_assoc, List.singleton_append]

/-- **The segments of a path are read as they are shown.** -/
theorem segmentsAfterHost_render {scheme : List Char} (hweb : Scheme.isWeb scheme = true)
    {ss : List (List Char)} (hne : ss ≠ []) (h : ∀ s ∈ ss, IsWritten s) :
    segmentsAfterHost scheme (UrlPath.segments ss).render = ss := by
  obtain ⟨s, ss, rfl⟩ := List.exists_cons_of_ne_nil hne
  have hpieces := splitSlashes_render (fun t ht => h t (List.mem_cons_of_mem s ht)) s
    (h s List.mem_cons_self)
  have hslash : withoutSlash scheme (UrlPath.segments (s :: ss)).render =
      s ++ (UrlPath.segments ss).render := by
    have htext : (UrlPath.segments (s :: ss)).render =
        '/' :: (s ++ (UrlPath.segments ss).render) := rfl
    have hcut : isSlash (Scheme.isSpecial scheme) '/' = true := rfl
    rw [htext, withoutSlash, if_pos hcut]
  have hencoded : (s :: ss).map (Percent.encode Percent.path) = s :: ss := by
    refine (List.map_congr_left fun t ht => ?_).trans (List.map_id _)
    exact Percent.encode_eq_self (h t ht).encoded
  simp only [segmentsAfterHost, Scheme.isSpecial_of_isWeb hweb, Bool.not_true, Bool.and_false,
    Bool.false_eq_true, if_false, segmentsOf, Scheme.beq_file_of_isWeb hweb, placed, hslash,
    hpieces, hencoded]
  exact placeAll_of_isWritten h

/-! ### Whole addresses -/

/-- A text without control characters and blanks is read as it stands. -/
theorem cleaned_eq_self {s : List Char} (h : ∀ c ∈ s, 0x20 < c.toNat) : cleaned s = s := by
  have haround {t : List Char} (ht : ∀ c ∈ t, 0x20 < c.toNat) : t.dropWhile isAround = t := by
    have hstops : Text.Stops isAround t := fun c hc =>
      decide_eq_false (Nat.not_le.2 (ht c (List.mem_of_mem_head? hc)))
    have hnone : ∀ c ∈ ([] : List Char), isAround c = true := fun c hc => by cases hc
    exact Text.dropWhile_append_stop hnone hstops
  have hreverse : ∀ c ∈ s.reverse, 0x20 < c.toNat := fun c hc => h c (List.mem_reverse.1 hc)
  rw [cleaned, haround h, haround hreverse, List.reverse_reverse]
  refine withoutLayout_eq_self fun c hc => ?_
  have hlow : ∀ d ∈ ['\t', '\n', '\r'], d.toNat ≤ 0x20 := List.forall_iff_forall_mem.1 (by decide)
  rw [Bool.eq_false_iff]
  intro hlayout
  simp only [isLayout, Bool.or_eq_true, beq_iff_eq] at hlayout
  have hmem : c ∈ ['\t', '\n', '\r'] := by simpa [or_assoc] using hlayout
  exact absurd (h c hc) (Nat.not_lt.2 (hlow c hmem))

theorem scheme?_of_isWeb {scheme : List Char} (hweb : Scheme.isWeb scheme = true) (s : List Char) :
    scheme? (scheme ++ ':' :: s) = some (scheme, s) := by
  rw [Scheme.isWeb, Bool.or_eq_true, beq_iff_eq, beq_iff_eq] at hweb
  rcases hweb with rfl | rfl
  · rfl
  · rfl

/-- What is not encoded in a path. -/
theorem of_path {c : Char} (h : Percent.path c = false) : 0x20 < c.toNat ∧ c ≠ '?' ∧ c ≠ '#' := by
  simp only [Percent.path, Percent.fragment, Percent.control, Bool.or_eq_false_iff,
    decide_eq_false_iff_not, List.contains_eq_mem, List.mem_cons, List.not_mem_nil, or_false,
    not_or] at h
  obtain ⟨⟨⟨hlow, -⟩, hblank, -⟩, hsign, hmark, -⟩ := h
  refine ⟨?_, hmark, hsign⟩
  have hne : c.toNat ≠ 0x20 := by
    intro hcode
    refine hblank ?_
    rw [← Char.ofNat_toNat c, hcode]
  omega

theorem of_userinfo {c : Char} (h : Percent.userinfo c = false) :
    Percent.path c = false ∧ isSlash true c = false := by
  simp only [Percent.userinfo, Bool.or_eq_false_iff, List.contains_eq_mem, decide_eq_false_iff_not,
    List.mem_cons, List.not_mem_nil, or_false, not_or] at h
  obtain ⟨hpath, hslash, -, -, -, -, -, hback, -⟩ := h
  refine ⟨hpath, ?_⟩
  simp only [isSlash, Bool.true_and, Bool.or_eq_false_iff, beq_eq_false_iff_ne]
  exact ⟨hslash, hback⟩

/-- The character does not end an authority. -/
def StaysInside (c : Char) : Prop := 0x20 < c.toNat ∧ isSlash true c = false ∧ c ≠ '?' ∧ c ≠ '#'

theorem staysInside_of_mem {c : Char} (h : c ∈ '@' :: ':' :: "0123456789".toList) :
    StaysInside c := by
  have hall : ∀ d ∈ '@' :: ':' :: "0123456789".toList,
      0x20 < d.toNat ∧ isSlash true d = false ∧ d ≠ '?' ∧ d ≠ '#' :=
    List.forall_iff_forall_mem.1 (by decide)
  exact hall c h

/-- **No character of the text of an authority ends it.** -/
theorem staysInside_of_mem_render {scheme : List Char} {a : Authority} (h : a.IsRead scheme)
    {c : Char} (hc : c ∈ a.render) : StaysInside c := by
  have huser {s : List Char} (hs : ∀ c ∈ s, Percent.userinfo c = false) (hc : c ∈ s) :
      StaysInside c := by
    obtain ⟨hpath, hslash⟩ := of_userinfo (hs c hc)
    obtain ⟨hlow, hmark, hsign⟩ := of_path hpath
    exact ⟨hlow, hslash, hmark, hsign⟩
  -- the credentials, the host and the port
  obtain ⟨host, s, hhost, hread⟩ := h.host
  rw [render_authority hhost] at hc
  rcases List.mem_append.1 hc with hc | hc
  · rw [Authority.credentials] at hc
    split at hc
    · cases hc
    · rcases List.mem_append.1 hc with hc | hc
      · rcases List.mem_append.1 hc with hc | hc
        · exact huser h.user hc
        · split at hc
          · cases hc
          · rcases List.mem_cons.1 hc with rfl | hc
            · exact staysInside_of_mem (by decide)
            · exact huser h.password hc
      · rw [List.mem_singleton.1 hc]
        exact staysInside_of_mem (by decide)
  · rcases List.mem_append.1 hc with hc | hc
    · obtain ⟨hlow, -, hout⟩ := (isHostText_render hread).plain c hc
      simp only [List.mem_cons, List.not_mem_nil, or_false, not_or] at hout
      refine ⟨hlow, ?_, hout.2.2.1, hout.2.2.2.1⟩
      simp only [isSlash, Bool.true_and, Bool.or_eq_false_iff, beq_eq_false_iff_ne]
      exact ⟨hout.1, hout.2.1⟩
    · rcases mem_portText hc with rfl | hdigit
      · exact staysInside_of_mem (by decide)
      · exact staysInside_of_mem (List.mem_cons_of_mem _ (List.mem_cons_of_mem _
          (Domain.mem_of_isDigit hdigit)))

theorem of_mem_path {ss : List (List Char)} (h : ∀ s ∈ ss, IsWritten s) {c : Char}
    (hc : c ∈ (UrlPath.segments ss).render) : 0x20 < c.toNat ∧ c ≠ '?' ∧ c ≠ '#' := by
  obtain ⟨s, hs, hc⟩ := List.mem_flatMap.1 hc
  rcases List.mem_cons.1 hc with rfl | hc
  · decide
  · exact of_path ((h s hs).encoded c hc)

theorem lt_of_mem_scheme {scheme : List Char} (hweb : Scheme.isWeb scheme = true) {c : Char}
    (hc : c ∈ scheme) : 0x20 < c.toNat := by
  have hletters : ∀ c ∈ Scheme.https, 0x20 < c.toNat := List.forall_iff_forall_mem.1 (by decide)
  have hboth : ∀ c ∈ Scheme.http, c ∈ Scheme.https := List.forall_iff_forall_mem.1 (by decide)
  rw [Scheme.isWeb, Bool.or_eq_true, beq_iff_eq, beq_iff_eq] at hweb
  rcases hweb with rfl | rfl
  · exact hletters c (hboth c hc)
  · exact hletters c hc

section Shown

variable {scheme : List Char} {a : Authority} {ss : List (List Char)}

/-- An address that is shown has neither blanks nor control characters. -/
theorem lt_of_mem_shown (hweb : Scheme.isWeb scheme = true) (ha : a.IsRead scheme)
    (hss : ∀ s ∈ ss, IsWritten s) : ∀ c ∈ scheme ++ ':' :: '/' :: '/' ::
      (a.render ++ (UrlPath.segments ss).render), 0x20 < c.toNat := by
  intro c hc
  simp only [List.mem_append, List.mem_cons] at hc
  rcases hc with hc | rfl | rfl | rfl | hc | hc
  · exact lt_of_mem_scheme hweb hc
  · decide
  · decide
  · decide
  · exact (staysInside_of_mem_render ha hc).1
  · exact (of_mem_path hss hc).1

/-- Behind the slashes after its scheme stands the authority. -/
theorem dropWhile_slashes_render (ha : a.IsRead scheme) (below : List Char) :
    ('/' :: '/' :: (a.render ++ below)).dropWhile (isSlash true) = a.render ++ below := by
  obtain ⟨host, t, hhost, hread⟩ := ha.host
  have hne : a.render ≠ [] := by
    simp [render_authority hhost, (isHostText_render hread).ne_nil]
  have hslashes : ∀ c ∈ ['/', '/'], isSlash true c = true :=
    List.forall_iff_forall_mem.1 (by decide)
  have hstops : Text.Stops (isSlash true) (a.render ++ below) := by
    intro c hc
    rw [List.head?_append_of_ne_nil _ hne] at hc
    exact (staysInside_of_mem_render ha (List.mem_of_mem_head? hc)).2.1
  exact Text.dropWhile_append_stop hslashes hstops

theorem untilPath_render (ha : a.IsRead scheme) (below : List Char) :
    untilPath true (a.render ++ '/' :: below) = a.render := by
  refine Text.takeWhile_append_stop (fun c hc => ?_) (by simp [isSlash])
  obtain ⟨-, hslash, hmark, hsign⟩ := staysInside_of_mem_render ha hc
  simp [hslash, hmark, hsign]

theorem splitPath_render (hss : ∀ s ∈ ss, IsWritten s) :
    splitPath (UrlPath.segments ss).render = ((UrlPath.segments ss).render, []) := by
  have hwhole : ((UrlPath.segments ss).render ++ []).takeWhile (fun c => !(c == '?' || c == '#')) =
      (UrlPath.segments ss).render :=
    Text.takeWhile_append_stop (fun c hc => by simp [(of_mem_path hss hc).2]) (Text.stops_nil _)
  rw [List.append_nil] at hwhole
  simp only [splitPath, hwhole, List.drop_length]

/-- **An address of the web is read as it is shown.** -/
theorem parseChars_render (hweb : Scheme.isWeb scheme = true) (ha : a.IsRead scheme) (hne : ss ≠ [])
    (hss : ∀ s ∈ ss, IsWritten s) :
    parseChars (Url.renderChars ⟨scheme, some a, false, .segments ss, none, none⟩) =
      .ok ⟨scheme, some a, false, .segments ss, none, none⟩ := by
  have hspecial := Scheme.isSpecial_of_isWeb hweb
  have hfile : scheme ≠ Scheme.file := beq_eq_false_iff_ne.1 (Scheme.beq_file_of_isWeb hweb)
  have htext : Url.renderChars ⟨scheme, some a, false, .segments ss, none, none⟩ =
      scheme ++ ':' :: '/' :: '/' :: (a.render ++ (UrlPath.segments ss).render) := by
    simp [renderChars, authorityText, pathText]
  have hfront : untilPath true (a.render ++ (UrlPath.segments ss).render) = a.render := by
    obtain ⟨s, ss, rfl⟩ := List.exists_cons_of_ne_nil hne
    exact untilPath_render ha (s ++ (UrlPath.segments ss).render)
  rw [parseChars, htext, cleaned_eq_self (lt_of_mem_shown hweb ha hss), scheme?_of_isWeb hweb]
  dsimp only
  rw [if_neg hfile, if_pos hspecial, dropWhile_slashes_render ha, withAuthority, hspecial, hfront,
    List.drop_left, readAuthority_render hspecial ha, splitPath_render hss]
  refine congrArg Except.ok ?_
  rw [List.nil_append, segmentsAfterHost_render hweb hne hss]
  rfl

end Shown

end Url

end FirmwareCatalog
